import ScriptedConsumer.ResetPolicy

set_option autoImplicit false

/-! # Settings

What a consumer can be configured with through named text variables: the reset policy and how long
closing it may take. -/

namespace ScriptedConsumer

/-! ## Close timeouts -/

/-- A number of milliseconds below 2⁶⁴. -/
structure Timeout where
  millis : UInt64
deriving DecidableEq, Repr, Inhabited

namespace Timeout

/-- The digits of a number of thousandths, after the point and without trailing zeros. -/
def thousandths (n : Nat) : List Char :=
  ([n / 100, n / 10 % 10, n % 10].map Nat.digitChar).reverse.dropWhile (· == '0') |>.reverse

/-- The written form of a timeout: in seconds from one second on, with as many decimals as it
    takes, and in milliseconds below. Zero is written in nanoseconds. -/
def text (t : Timeout) : String :=
  let n := t.millis.toNat
  let seconds := Text.natText (n / 1000)
  String.ofList <|
    if n = 0 then "0ns".toList
    else if n < 1000 then Text.natText n ++ "ms".toList
    else if n % 1000 = 0 then seconds ++ ['s']
    else seconds ++ '.' :: thousandths (n % 1000) ++ ['s']

/-- The timeout that a text gives as a number of milliseconds: ASCII digits after an optional plus
    sign, in range. -/
def parse? (text : String) : Option Timeout := do
  let digits := match text.toList with
    | '+' :: rest => rest
    | cs => cs
  let n ← Text.readNat? digits
  if n < UInt64.size then some ⟨UInt64.ofNat n⟩ else none

end Timeout

/-! ## Settings from variables -/

/-- How a consumer is configured. -/
structure Settings where
  reset : ResetPolicy
  closeTimeout : Timeout
deriving DecidableEq, Repr

/-- Why settings could not be read. -/
inductive SettingsError
  | unreadable (name : String)
deriving DecidableEq, Repr

/-- The wording of a settings error. -/
def SettingsError.message : SettingsError → String
  | unreadable name => "Failed to parse environment variable " ++ name

namespace Settings

/-- The variable that holds the reset policy. -/
def resetVariable : String := "KAFKA_CONSUMER_OFFSET_RESET"

/-- The variable that holds the close timeout in milliseconds. -/
def closeTimeoutVariable : String := "KAFKA_CONSUMER_CLOSE_TIMEOUT_MS"

/-- What holds where a variable is not given: the earliest offset, and thirty seconds. -/
def standard : Settings := ⟨.earliest, ⟨30000⟩⟩

/-- The settings that the variables give. The reset policy is read first. -/
def ofVariables (lookup : String → Option String) : Except SettingsError Settings := do
  let reset ← match lookup resetVariable with
    | none => pure standard.reset
    | some text => (ResetPolicy.parse text).mapError fun _ => .unreadable resetVariable
  let closeTimeout ← match lookup closeTimeoutVariable with
    | none => pure standard.closeTimeout
    | some text => match Timeout.parse? text with
      | some timeout => pure timeout
      | none => throw (.unreadable closeTimeoutVariable)
  return ⟨reset, closeTimeout⟩

end Settings

end ScriptedConsumer
