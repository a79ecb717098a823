namespace DeltaFrames

inductive SessionError (ε : Type) where
  | backend (error : ε)
  | unknown (reason : String)
  | emptyScope
  deriving DecidableEq, Repr

def SessionError.message {ε : Type} [ToString ε] : SessionError ε → String
  | .backend error => "solver backend error: " ++ toString error
  | .unknown reason => "solver could not decide the query: " ++ reason
  | .emptyScope => "no scope left to pop in this session"

end DeltaFrames
