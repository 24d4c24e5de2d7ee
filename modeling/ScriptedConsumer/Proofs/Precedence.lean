import ScriptedConsumer.Partition
import ScriptedConsumer.Text.Utf8

set_option autoImplicit false

/-! # Which partition comes first

Partitions are compared by their topics, code point by code point, and within a topic by their
index. UTF-8 was made so that the bytes of a text are ordered in the same way: a greater character
is written with a greater first byte, or with the same one and a greater one behind it, and so on.
`Partition.precedes_iff` says it of partitions. -/

namespace ScriptedConsumer

namespace Text

/-! ## The bytes of a text -/

theorem toList_loop (bytes : ByteArray) (i : Nat) (read : List UInt8) :
    ByteArray.toList.loop bytes i read = read.reverse ++ bytes.data.toList.drop i := by
  fun_induction ByteArray.toList.loop bytes i read with
  | case1 i read hi ih =>
      have hi' : i < bytes.data.toList.length := hi
      rw [ih, List.drop_eq_getElem_cons hi']
      simp [ByteArray.get!, hi]
  | case2 i read hi =>
      have hi' : bytes.data.toList.length ≤ i := Nat.le_of_not_lt hi
      rw [List.drop_eq_nil_of_le hi', List.append_nil]

theorem encode_eq (text : String) : encode text = text.toList.flatMap String.utf8EncodeChar := by
  unfold encode
  rw [String.toUTF8_eq_toByteArray, ← String.utf8Encode_toList]
  unfold ByteArray.toList List.utf8Encode
  rw [toList_loop, List.toList_data_toByteArray]
  simp

/-! ## Greater characters are written with greater bytes -/

theorem utf8EncodeChar_lt {a b : Char} (h : a < b) (xs ys : List UInt8) :
    String.utf8EncodeChar a ++ xs < String.utf8EncodeChar b ++ ys := by
  have hlt : a.val.toNat < b.val.toNat := h
  have hmax : b.val.toNat < 0x110000 := by
    rcases b.valid with hb | ⟨-, hb⟩
    · omega
    · exact hb
  unfold String.utf8EncodeChar
  generalize a.val.toNat = m at hlt ⊢
  generalize b.val.toNat = n at hlt hmax ⊢
  have htail (k : Nat) : (k % 0x40 + 0x80) % 2 ^ 8 = k % 0x40 + 0x80 := by omega
  have htwo (k : Nat) : k / 4096 = k / 64 / 64 := by omega
  have hthree (k : Nat) : k / 262144 = k / 64 / 64 / 64 := by omega
  -- a character is written with one to four bytes, so there are sixteen cases, six of them absurd
  dsimp only
  repeat' split
  all_goals
    simp only [List.cons_append, List.nil_append, List.cons_lt_cons_iff, UInt8.lt_iff_toNat_lt,
      ← UInt8.toNat_inj, UInt8.toNat_ofNat', htail, htwo, hthree]
    omega

theorem flatMap_utf8EncodeChar_lt {as bs : List Char} (h : as < bs) :
    as.flatMap String.utf8EncodeChar < bs.flatMap String.utf8EncodeChar := by
  induction as generalizing bs with
  | nil =>
      cases bs with
      | nil => simp at h
      | cons b bs =>
          obtain ⟨x, xs, hb⟩ := List.exists_cons_of_ne_nil (@String.utf8EncodeChar_ne_nil b)
          rw [List.flatMap_nil, List.flatMap_cons, hb, List.cons_append]
          exact List.nil_lt_cons x _
  | cons a as ih =>
      cases bs with
      | nil => simp at h
      | cons b bs =>
          rw [List.flatMap_cons, List.flatMap_cons]
          rcases List.cons_lt_cons_iff.1 h with hab | ⟨rfl, hrest⟩
          · exact utf8EncodeChar_lt hab _ _
          · exact List.append_left_lt (ih hrest)

/-- Texts are ordered as their bytes are. -/
theorem encode_lt_iff {s t : String} : encode s < encode t ↔ s < t := by
  have hmono {s t : String} (h : s < t) : encode s < encode t := by
    rw [encode_eq, encode_eq]
    exact flatMap_utf8EncodeChar_lt (String.lt_iff.1 h)
  constructor
  · intro h
    -- otherwise the texts are equal or ordered the other way round, and so are their bytes
    by_cases hst : s < t
    · exact hst
    · by_cases hts : t < s
      · exact absurd (List.lt_trans h (hmono hts)) (List.lt_irrefl _)
      · have heq : s = t := String.le_antisymm (String.not_lt.1 hts) (String.not_lt.1 hst)
        rw [heq] at h
        exact absurd h (List.lt_irrefl _)
  · exact hmono

end Text

namespace Partition

/-! ## The order of partitions -/

/-- One partition comes before another one: the bytes of its topic are less, or the topics are the
    same and its index, as a signed number, is less. -/
def Precedes (p q : Partition) : Prop :=
  Text.encode p.topic < Text.encode q.topic ∨ p.topic = q.topic ∧ p.index.toInt < q.index.toInt

theorem precedes_iff {p q : Partition} : p.Precedes q ↔ compare p q = .lt := by
  have htopic : compare p.topic q.topic = .lt ↔ p.topic < q.topic := compareOfLessAndEq_eq_lt
  have hindex : compare p.index q.index = .lt ↔ p.index < q.index := compareOfLessAndEq_eq_lt
  unfold Precedes
  rw [compare_eq, Ordering.then_eq_lt, htopic, hindex, Std.LawfulEqOrd.compare_eq_iff_eq,
    Text.encode_lt_iff, Int32.lt_iff_toInt_lt]

end Partition

end ScriptedConsumer
