import SwapDesk.Session.Dialog

/-!
# The dry-run wallet

A wallet that signs nothing. It keeps the calls it is given and shows each as indented JSON.
-/

namespace SwapDesk.DryRun

/-- Keeps every call, oldest first. -/
def wallet (account : Option String) : Wallet (List FunctionCall) where
  account _ := account
  submit call kept := (.ok (), kept ++ [call])

def shown (call : FunctionCall) : String :=
  call.json.renderIndented ++ "\n"

end SwapDesk.DryRun
