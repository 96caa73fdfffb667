import ByteLedger.Cursor.Json
import ByteLedger.Cursor.Token
import ByteLedger.Geometry.Json
import ByteLedger.Proofs.Account
import ByteLedger.Proofs.Array
import ByteLedger.Proofs.Atomicity
import ByteLedger.Proofs.Chain
import ByteLedger.Proofs.Damage
import ByteLedger.Proofs.Divergence
import ByteLedger.Proofs.Finished
import ByteLedger.Proofs.Frontier
import ByteLedger.Proofs.History
import ByteLedger.Proofs.Image
import ByteLedger.Proofs.InProcess
import ByteLedger.Proofs.Paging
import ByteLedger.Proofs.Persistence
import ByteLedger.Proofs.Representation
import ByteLedger.Proofs.Termination
import ByteLedger.Proofs.Torn
import ByteLedger.Proofs.Truncation
import ByteLedger.Proofs.VectorText
import ByteLedger.Remote.Peer
import ByteLedger.Replica.Scenario
import ByteLedger.Storage.Journaled
import ByteLedger.Vectors.Golden
