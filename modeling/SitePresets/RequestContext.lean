/-!
# The context of a request

The context of a request, for the log: its number and the user who made it.
-/

namespace SitePresets

structure RequestContext where
  id : String := ""
  user : String := ""
  deriving DecidableEq, Repr

namespace RequestContext

def shown (text : String) : String :=
  if text = "" then "-" else text

def extra (context : RequestContext) : List (String × String) :=
  [("correlation_id", shown context.id), ("user", shown context.user)]

end RequestContext

end SitePresets
