/-!
# Options of a frame set

Options come as a configuration value, which either names its fields or lists them in order. What
is not given takes its default; a field of another name is skipped, but a list may hold no more
than the fields there are.
-/

namespace DeltaFrames

structure Options where
  initialCapacity : UInt64 := 10
  subsumption : Bool := true
  deriving DecidableEq, Repr, Inhabited

namespace Options

inductive Setting where
  | number (value : UInt64)
  | flag (value : Bool)
  | list (items : List Setting)
  | fields (entries : List (String × Setting))
  | other
  deriving Inhabited

def readCapacity (options : Options) : Setting → Option Options
  | .number initialCapacity => some { options with initialCapacity }
  | _ => none

def readSubsumption (options : Options) : Setting → Option Options
  | .flag subsumption => some { options with subsumption }
  | _ => none

def readOptional (read : Options → Setting → Option Options) (options : Options) :
    Option Setting → Option Options
  | some setting => read options setting
  | none => some options

def ofSetting? : Setting → Option Options
  | .fields entries => do
      let options ← readOptional readCapacity {} (entries.lookup "initial_capacity")
      readOptional readSubsumption options (entries.lookup "subsumption")
  | .list items => do
      let options ← readOptional readCapacity {} items[0]?
      let options ← readOptional readSubsumption options items[1]?
      if items.length ≤ 2 then some options else none
  | _ => none

end Options
end DeltaFrames
