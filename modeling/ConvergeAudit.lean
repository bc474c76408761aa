import ConvergeAudit.Bft.Confluence
import ConvergeAudit.Layered.Proofs
import ConvergeAudit.Layered.Exact
import ConvergeAudit.Runtime.Restart
import ConvergeAudit.Runtime.Sealing
import ConvergeAudit.Runtime.Peers
import ConvergeAudit.Runtime.Backoff
import ConvergeAudit.Audit.Bisection
import ConvergeAudit.OpenWorld.Certificates
import ConvergeAudit.OpenWorld.Encounter
import ConvergeAudit.OpenWorld.SealConflict
import ConvergeAudit.OpenWorld.AnchorRecovery
import ConvergeAudit.Encounters.InventoryPages
import ConvergeAudit.Inventory.Listing
import ConvergeAudit.Inventory.Lineage
import ConvergeAudit.Replay.CommandOrder
import ConvergeAudit.Central.Binding
import ConvergeAudit.Keys.Store
import ConvergeAudit.Peers.Quarantine
import ConvergeAudit.PlayerStore.Slots
import ConvergeAudit.Quorum.Ed25519
import ConvergeAudit.Shard.Forks
import ConvergeAudit.Evidence.Pages
