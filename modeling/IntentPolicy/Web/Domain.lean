import IntentPolicy.Web.Label

namespace IntentPolicy

/-!
# Domains in ASCII

A domain is read label by label, in the one form of its text, and written in ASCII.
-/

namespace Domain

/-- The labels agree with each other: if one goes to the left, each keeps to one direction. -/
def areConsistent (labels : List Label) : Bool :=
  !labels.any (fun label => label.characters.any Label.isRightward)
    || labels.all Label.keepsDirection

/-- A domain in ASCII and in lower case, if it has such a form. -/
def ascii? (domain : List Char) : Option (List Char) := do
  let labels ← (splitAtEach '.' (normalForm domain)).mapM Label.read?
  if areConsistent labels then return ['.'].intercalate (labels.map Label.written) else none

end Domain

end IntentPolicy
