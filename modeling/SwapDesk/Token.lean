import SwapDesk.Json.Decode
import SwapDesk.Text.UpperCase

/-!
# Tokens

The currencies of a swap: NEAR itself, tokens with a contract on the chain, and bridged tokens
that are listed but cannot be swapped.
-/

namespace SwapDesk

/-- The standard a currency follows. -/
inductive TokenKind
  /-- NEAR, held on the account and not in a contract. -/
  | native
  | nep21
  /-- Bridged from Ethereum. -/
  | erc20
deriving DecidableEq

structure Token where
  symbol : String
  kind : TokenKind
  /-- The account of the token's contract, empty for NEAR. -/
  address : String
deriving DecidableEq

namespace TokenKind

def name : TokenKind → String
  | native => "Native token"
  | nep21 => "NEP-21"
  | erc20 => "ERC-20"

def json (kind : TokenKind) : Json := .string kind.name

def ofWritten : Json.Written → Decoded TokenKind :=
  Json.Written.oneOf [(native.name, native), (nep21.name, nep21), (erc20.name, erc20)]

end TokenKind

namespace Token

def near : Token := ⟨"NEAR", .native, ""⟩

def isNative (token : Token) : Bool := token.kind = .native

/-- The token of a contract. Its symbol is the first label of the contract's account. -/
def ofContract (address : String) : Token :=
  let label := String.ofList (address.toList.takeWhile (· != '.'))
  ⟨Text.upperCase label, .nep21, address⟩

/-- The mark before the address of a bridged token. -/
def bridgeMark : List Char := ['e', 'r', 'c', '2', '0', ':']

/-- Reads a token as a user names it: `near`, the address of a bridged token after its mark, or
the account of a contract. -/
def ofName (name : String) : Token :=
  let trimmed := Text.trim name.toList
  if trimmed.map Char.toLower = ['n', 'e', 'a', 'r'] then near
  else if bridgeMark.isPrefixOf trimmed then
    let address := String.ofList (trimmed.drop bridgeMark.length)
    ⟨address, .erc20, address⟩
  else ofContract (String.ofList trimmed)

def json (token : Token) : Json :=
  .object [("symbol", .string token.symbol), ("type", token.kind.json),
    ("address", .string token.address)]

def ofWritten (document : Json.Written) : Decoded Token := do
  match ← document.record ["symbol", "type", "address"] with
  | [some symbol, some kind, some address] =>
    return ⟨← symbol.text, ← TokenKind.ofWritten kind, ← address.text⟩
  | _ => .error .form

end Token

end SwapDesk
