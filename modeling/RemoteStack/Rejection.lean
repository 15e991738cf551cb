/-!
# Rejected words

What a word given by the user can fail to be, with the word as it was given. `message` is
the one place that words these refusals.
-/

namespace RemoteStack

/-- A word that is not of the expected form. -/
inductive Rejection where
  | release (word : String)
  | dataModel (word : String)
  | objectKind (word : String)
  | address (word : String)
  | logFormat (word : String)
  | logLevel (word : String)
  deriving DecidableEq, Repr

def Rejection.message : Rejection → String
  | .release word => s!"Invalid release: {word}. Use 'MAJOR.MINOR', e.g. '2.7'"
  | .dataModel word => s!"Unknown data model: {word}. Use 'lp64' or 'llp64'"
  | .objectKind word => s!"Unknown object kind: {word}"
  | .address word => s!"Invalid address: {word}. Use hex (0x7f...) or decimal"
  | .logFormat word => s!"Unknown log format: {word}. Use 'pretty' or 'json'"
  | .logLevel word =>
    s!"Unknown log level: {word}. Use 'error', 'warn', 'info', 'debug', or 'trace'"

end RemoteStack
