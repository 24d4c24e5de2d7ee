import ScriptedConsumer.Json.Codec
import ScriptedConsumer.Proofs.Acknowledging
import ScriptedConsumer.Proofs.Atomicity
import ScriptedConsumer.Proofs.Closing
import ScriptedConsumer.Proofs.Commuting
import ScriptedConsumer.Proofs.Documents
import ScriptedConsumer.Proofs.Exporting
import ScriptedConsumer.Proofs.Handles
import ScriptedConsumer.Proofs.Independence
import ScriptedConsumer.Proofs.Interruptions
import ScriptedConsumer.Proofs.Locating
import ScriptedConsumer.Proofs.Modes
import ScriptedConsumer.Proofs.Naming
import ScriptedConsumer.Proofs.Polls
import ScriptedConsumer.Proofs.Rebalances
import ScriptedConsumer.Proofs.Recollection
import ScriptedConsumer.Proofs.Reordering
import ScriptedConsumer.Proofs.Room
import ScriptedConsumer.Proofs.Scripting
import ScriptedConsumer.Proofs.Signals
import ScriptedConsumer.Proofs.Topics
import ScriptedConsumer.Proofs.Trails
