import SwapDesk.Proofs.Amount.RoundTrip
import SwapDesk.Proofs.Form.Check
import SwapDesk.Proofs.Session.Agreement

/-!
# Swaps that are ready

The form checks a swap before it is submitted, and the session checks it again, from texts. What
the form finds ready passes every check of the session with the same amounts.
-/

namespace SwapDesk.Session

/-- A swap that the form finds ready is sent. When both amounts are handed over as they are shown,
the sale on the route sells what the form had for the input and the purchase buys what it had for
the output, each with the other amount as its limit. -/
theorem ready_swap_is_sent (swap : SwapForm) (input output : Amount) (amm : Amm) (account : String)
    (source target : Token) (route : Route) (hready : (swap.check true input output).1 = .ready)
    (hroute : Route.between source target = .ok route) :
    let session : Session := ⟨amm, some account⟩
    let sale := amm.swapExactIn route input output
    let purchase := amm.swapExactOut route output input
    sale.Sells amm source target input output ∧
      (session.swapFromIn source target input.display output.display).Submits sale ∧
      purchase.Buys amm source target output input ∧
      (session.swapFromOut source target input output.display).Submits purchase := by
  intro session sale purchase
  have hinput := input.ofHuman_display
  have houtput := output.ofHuman_display
  obtain ⟨-, -, -, hsold, hbought⟩ := SwapForm.fault?_eq_none_iff.mp
    (SwapForm.check_fst_eq_ready_iff.mp hready)
  refine ⟨amm.swapExactIn_sells hroute input output, ?_,
    amm.swapExactOut_buys hroute output input, ?_⟩
  · rw [swapFromIn_eq_send rfl hroute hinput houtput hsold hbought]
    exact send_submits _
  · rw [swapFromOut_eq_send rfl hroute houtput hbought]
    exact send_submits _

/-- One unit less than a NEAR and a token and a half, with a balance of one NEAR. -/
theorem ready_swap_is_sent_near :
    let swap : SwapForm :=
      ⟨{ CurrencyField.empty 0 with balance := some ⟨10 ^ 24⟩ }, .empty 1, none, false, .notReady,
        none⟩
    let input : Amount := ⟨10 ^ 24 - 1⟩
    let output : Amount := ⟨15 * 10 ^ 23⟩
    let dai : Token := ⟨"DAI", .nep21, "dai.testnet"⟩
    let session : Session := ⟨⟨"amm.testnet"⟩, some "alice.testnet"⟩
    let sale := session.amm.swapExactIn (.nearToToken "dai.testnet") input output
    let purchase := session.amm.swapExactOut (.nearToToken "dai.testnet") output input
    (swap.check true input output).1 = .ready ∧
      Route.between .near dai = .ok (.nearToToken "dai.testnet") ∧
      input.display = "0.999999999999999999999999" ∧ output.display = "1.5" ∧
      sale.Sells session.amm .near dai input output ∧
      (session.swapFromIn .near dai "0.999999999999999999999999" "1.5").Submits sale ∧
      purchase.Buys session.amm .near dai output input ∧
      (session.swapFromOut .near dai input "1.5").Submits purchase := by
  intro swap input output dai session sale purchase
  have hready : (swap.check true input output).1 = .ready := by decide
  have hroute : Route.between .near dai = .ok (.nearToToken "dai.testnet") := rfl
  have hinput : input.display = "0.999999999999999999999999" := by decide
  have houtput : output.display = "1.5" := by decide
  obtain ⟨hsells, hsold, hbuys, hbought⟩ :=
    ready_swap_is_sent swap input output session.amm "alice.testnet" .near dai _ hready hroute
  rw [hinput, houtput] at hsold
  rw [houtput] at hbought
  exact ⟨hready, hroute, hinput, houtput, hsells, hsold, hbuys, hbought⟩

end SwapDesk.Session
