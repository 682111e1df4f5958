import SitePresets.Proofs.Service.Admission

/-!
# What an import rejects

An import of a text stores one more preset, or it leaves everything as it is. How it ends is told by the text
and the site alone, if the time and the user fit: it fails if the text is no document, if the site cannot be
read, if nothing of the document is known, or if the document has two known items for one key.
-/

namespace SitePresets

namespace Document

end Document

namespace Service

open Exchange

variable {service : Service} {snapshot : Snapshot} {document : Document} {text : String}
  {user : Option Int} {name : Option String}

end Service

/-! ### A text with two names for one setting -/

namespace SmallSite

end SmallSite

end SitePresets
