import SavedNetworks.Digest.Hmac
import SavedNetworks.Event.Record
import SavedNetworks.Manager.Record
import SavedNetworks.Platform.Record
import SavedNetworks.Settings.Record
import SavedNetworks.Proofs.Profile.Key
import SavedNetworks.Proofs.Manager.Changes
import SavedNetworks.Proofs.Manager.Edits
import SavedNetworks.Proofs.Manager.Operations
import SavedNetworks.Proofs.Manager.Loads
import SavedNetworks.Proofs.Manager.Tenants
import SavedNetworks.Proofs.Manager.Soundness
import SavedNetworks.Proofs.Manager.Placement
import SavedNetworks.Proofs.Manager.Runs
import SavedNetworks.Proofs.Manager.Links
import SavedNetworks.Proofs.Manager.Stopping
import SavedNetworks.Proofs.Manager.FailedReads
import SavedNetworks.Proofs.Manager.LoadedRecords
import SavedNetworks.Proofs.Manager.Refusals
import SavedNetworks.Proofs.Selection.Permanence
import SavedNetworks.Proofs.Store.Reading
import SavedNetworks.Proofs.Store.Refinement
import SavedNetworks.Proofs.Manager.Reloading
import SavedNetworks.Proofs.Manager.References
import SavedNetworks.Proofs.Manager.Identity
import SavedNetworks.Proofs.Manager.Returning
import SavedNetworks.Proofs.Manager.ProfileWork
import SavedNetworks.Proofs.Manager.LeftAlone
import SavedNetworks.Proofs.Manager.PrivateWork
import SavedNetworks.Proofs.Roster.Renaming
import SavedNetworks.Proofs.Manager.Traces
import SavedNetworks.Proofs.Manager.FailedLoads
import SavedNetworks.Proofs.Manager.DeferredLoads
import SavedNetworks.Proofs.Manager.Permission
import SavedNetworks.Proofs.Manager.Validity
import SavedNetworks.Proofs.Manager.Masking
import SavedNetworks.Proofs.Selection.Coherence
import SavedNetworks.Proofs.Manager.Deeds
import SavedNetworks.Proofs.Manager.Passages
import SavedNetworks.Proofs.Manager.Moods
import SavedNetworks.Proofs.Manager.Following
import SavedNetworks.Proofs.Manager.Notifications
import SavedNetworks.Proofs.Manager.EventStreams
import SavedNetworks.Proofs.Selection.Backoff
import SavedNetworks.Proofs.Selection.Debouncing
import SavedNetworks.Proofs.Manager.Polling
import SavedNetworks.Proofs.Manager.Decisions
import SavedNetworks.Proofs.Manager.Restarts
import SavedNetworks.Proofs.Sorting
import SavedNetworks.Proofs.Sighting.Channels
import SavedNetworks.Proofs.Linking.Sides
import SavedNetworks.Proofs.Manager.Observations
import SavedNetworks.Proofs.Manager.PartialScans
import SavedNetworks.Proofs.Manager.ScanLists
import SavedNetworks.Proofs.Manager.StoredAddresses
import SavedNetworks.Proofs.Manager.StationAddresses
import SavedNetworks.Proofs.Manager.Rotation
import SavedNetworks.Proofs.Manager.PartialUpdates
import SavedNetworks.Proofs.Manager.Dismissals
import SavedNetworks.Proofs.Address.Grammar
import SavedNetworks.Proofs.Manager.TransmitterTexts
import SavedNetworks.Proofs.Manager.CreatorRights
import SavedNetworks.Proofs.Manager.Removals
import SavedNetworks.Proofs.Manager.Replacements
import SavedNetworks.Proofs.Selection.DisableTimes
import SavedNetworks.Proofs.Roster.Table
import SavedNetworks.Proofs.Store.KeySpaces
import SavedNetworks.Proofs.Selection.Standing
import SavedNetworks.Proofs.Manager.Upkeep
import SavedNetworks.Proofs.Manager.CoarseStatus
import SavedNetworks.Proofs.Randomization.Requests
import SavedNetworks.Proofs.Manager.Overflow
import SavedNetworks.Proofs.Manager.Halting
