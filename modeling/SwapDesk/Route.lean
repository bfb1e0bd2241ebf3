import SwapDesk.ClientError

/-!
# Routes

The family of contract methods that serves a pair of tokens.
-/

namespace SwapDesk

/-- A pair of tokens that can be swapped, by the addresses of their contracts. -/
inductive Route
  | nearToToken (token : String)
  | tokenToNear (token : String)
  | tokenToToken (source target : String)
deriving DecidableEq

namespace Route

/-- The route from one token to another. Only NEAR and tokens with a contract have routes, and
there is none from NEAR to itself. -/
def between (source target : Token) : Except ClientError Route :=
  match source.kind, target.kind with
  | .native, .nep21 => .ok (.nearToToken target.address)
  | .nep21, .native => .ok (.tokenToNear source.address)
  | .nep21, .nep21 => .ok (.tokenToToken source.address target.address)
  | sold, bought => .error (.noRoute sold bought)

/-- Whether what is sold is NEAR, which is paid as the attached deposit. -/
def paysNear : Route → Bool
  | nearToToken _ => true
  | _ => false

end Route

end SwapDesk
