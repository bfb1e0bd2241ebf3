import SwapDesk.Json.Decode

/-!
# Pools

The public state of a pool of NEAR and a token.
-/

namespace SwapDesk

structure Pool where
  near : Amount
  tokens : Amount
  /-- The shares of all who keep the pool, with as many places as NEAR. -/
  shares : Amount
deriving DecidableEq

namespace Pool

def fieldNames : List String := ["ynear", "tokens", "total_shares"]

def json (pool : Pool) : Json :=
  .object [("ynear", pool.near.json), ("tokens", pool.tokens.json),
    ("total_shares", pool.shares.json)]

/-- Reads a pool. The amounts are read in the order in which they are written, and the first that
fails is what is wrong, before a missing field. -/
def ofWritten : Json.Written → Decoded Pool
  | .array items => do
    match ← (items.take 3).mapM Json.Written.amount with
    | [near, tokens, shares] =>
      if items.length = 3 then return ⟨near, tokens, shares⟩ else .error .form
    | _ => .error .form
  | .object fields => do
    let amounts ← (fields.filter fun field => fieldNames.contains field.1).mapM
      fun (name, field) => return (name, ← field.amount)
    match amounts.length, fieldNames.map fun name => amounts.lookup name with
    | 3, [some near, some tokens, some shares] => return ⟨near, tokens, shares⟩
    | _, _ => .error .form
  | _ => .error .form

end Pool

end SwapDesk
