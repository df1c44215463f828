import ClientRegistration.Text.Quoted
namespace ClientRegistration.Text

inductive Reason where
  | invalidStart
  | invalidContinuation
  | unexpectedEnd
  | outOfRange (limit : Nat)
  | truncated
  | beyondUnicode
deriving DecidableEq

inductive Piece where
  | char (c : CodePoint)
  | bad (reason : Reason) (stretch : Bytes)
deriving DecidableEq

end ClientRegistration.Text
