import SitePresets.EncryptionKey
import SitePresets.Http.App
import SitePresets.Lock
import SitePresets.Proofs.Apply.Settling
import SitePresets.Proofs.Apply.Stopping
import SitePresets.Proofs.Apply.WholeNumbers
import SitePresets.Proofs.Document.RoundTrip
import SitePresets.Proofs.Document.Scopes
import SitePresets.Proofs.Exclusion
import SitePresets.Proofs.Lock.Fairness
import SitePresets.Proofs.Rollback.Lapsing
import SitePresets.Proofs.Rollback.Resuming
import SitePresets.Proofs.Rollback.Stack
import SitePresets.Proofs.Rollback.Switched
import SitePresets.Proofs.Service.BlogMenu
import SitePresets.Proofs.Service.Choosing
import SitePresets.Proofs.Service.Failing
import SitePresets.Proofs.Service.History
import SitePresets.Proofs.Service.Immutability
import SitePresets.Proofs.Service.Mirror
import SitePresets.Proofs.Service.Protection
import SitePresets.Proofs.Service.Rejection
import SitePresets.Proofs.Service.Restarting
import SitePresets.Proofs.Service.Restoration
import SitePresets.Proofs.Service.Transport
import SitePresets.Proofs.Site.Concealing
import SitePresets.Proofs.Site.Displaying
import SitePresets.Proofs.Site.Surveying
import SitePresets.Proofs.Tree.Flattening
import SitePresets.RequestContext
import SitePresets.Service.Step
import SitePresets.Settings
import SitePresets.Value.Json
