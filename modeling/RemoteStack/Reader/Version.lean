import RemoteStack.Probe.Basic
import RemoteStack.Version

/-!
# Choosing the version

The choice of a version looks at no memory, but it is the first thing that the log tells.
-/

namespace RemoteStack

/-- Chooses the version of a release on a machine. -/
def Version.choose (release : Release) (pointerBytes : Nat) (dataModel : DataModel) :
    Probe Version := do
  let version ← Probe.ofExcept (Version.select release pointerBytes dataModel)
  Probe.debug s!"selected interpreter version {version.text}"
  return version

end RemoteStack
