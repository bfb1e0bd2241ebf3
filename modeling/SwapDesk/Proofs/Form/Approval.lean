import SwapDesk.Proofs.Form.Field
import SwapDesk.Proofs.Form.Run
import SwapDesk.Proofs.Session.Dialog
import SwapDesk.Session.Script

/-!
# Approvals that a form waits for

Only a token with a contract has an allowance, so only a swap that sells one can wait for an
approval. The form keeps this up by itself as long as whoever raises the mark does so for such a
token, and a session never tells anyone to raise it for another.
-/

namespace SwapDesk

namespace Session

variable {σ ω : Type} {chain : Chain σ} {wallet : Wallet ω} {s : σ} {w : ω}

private theorem needsApproval_eq_true_iff (session : Session) (token : Token) (amount : Amount) :
    ((session.needsApproval token amount).run chain wallet s w).result = .ok true ↔
      token.kind = .nep21 ∧
        ∃ allowed, ((session.allowance token).run chain wallet s w).result = .ok allowed ∧
          allowed < amount := by
  rw [needsApproval]
  split
  · next hkind =>
    rw [Dialog.run_bind]
    rcases (session.allowance token).run chain wallet s w with ⟨e | allowed, events, s', w'⟩
    · simp
    · simp [hkind, pure, Dialog.run]
  · next hkind =>
    simp [hkind, pure, Dialog.run]

/-- Some session has said that a token of this kind needs an approval. -/
def SaysNeeded (kind : Option TokenKind) : Prop :=
  ∃ (σ ω : Type) (chain : Chain σ) (wallet : Wallet ω) (s : σ) (w : ω) (session : Session)
    (token : Token) (amount : Amount), kind = some token.kind ∧
      ((session.needsApproval token amount).run chain wallet s w).result = .ok true

private theorem SaysNeeded.kind_eq {kind : Option TokenKind} (h : SaysNeeded kind) :
    kind = some .nep21 := by
  obtain ⟨σ, ω, chain, wallet, s, w, session, token, amount, rfl, hneeded⟩ := h
  rw [((needsApproval_eq_true_iff session token amount).mp hneeded).1]

end Session

namespace Form

/-- The action says that the input of the swap needs an approval. -/
def Action.raisesApproval : Action → Bool
  | setApproval needsApproval => needsApproval
  | setAllowance _ needsApproval => needsApproval = some true
  | _ => false

/-- A swap that needs an approval sells a token with a contract. -/
def ApprovalFits (form : Form) : Prop :=
  form.swap.needsApproval → form.swap.input.kind = some .nep21

variable {form : Form} {action : Action} {actions : List Action}

private theorem approvalFits_initial : initial.ApprovalFits := nofun

theorem ApprovalFits.update (h : form.ApprovalFits)
    (hraises : action.raisesApproval → form.swap.input.kind = some .nep21) :
    (form.update action).ApprovalFits := by
  cases action with
  | setBalance index balance =>
    rw [ApprovalFits, Form.update, CurrencyField.noteBalance_eq]
    exact h
  | setAmount leg => cases leg <;> exact h
  | pick leg currency =>
    cases leg with
    | swapIn =>
      intro hneeded
      exact congrArg some (of_decide_eq_true hneeded)
    | swapOut => exact nofun
    | pool1 | pool2 => exact h
  | setApproval needsApproval => exact hraises
  | setAllowance allowance needsApproval =>
    cases needsApproval with
    | none => exact h
    | some needed =>
      intro hneeded
      exact hraises (decide_eq_true (congrArg some hneeded))
  | switchSides =>
    -- The new input is the old output, and the mark is set by the kind of just this field.
    intro hneeded
    exact of_decide_eq_true hneeded
  | _ => exact h

private theorem kind_of_raisesApproval (hraises : action.raisesApproval)
    (h : (form.update action).ApprovalFits) : form.swap.input.kind = some .nep21 := by
  cases action with
  | setApproval needsApproval => exact h hraises
  | setAllowance allowance needsApproval =>
    obtain rfl : needsApproval = some true := of_decide_eq_true hraises
    exact h rfl
  | _ => contradiction

/-- When a swap that waits for an approval sells a token with a contract. That is so for all forms
of a run exactly if the mark is raised only while the input shows such a token. A session says
that an approval is needed exactly if the token has a contract and an allowance below the amount,
so it is also so if the mark is raised only when a session has said this of a token of the kind
that the input shows. -/
theorem approval_fits_exactly (actions : List Action) :
    ((∀ before, before <+: actions → (initial.updates before).ApprovalFits) ↔
      ∀ before action, before ++ [action] <+: actions → action.raisesApproval →
        (initial.updates before).swap.input.kind = some .nep21) ∧
    (∀ (σ ω : Type) (chain : Chain σ) (wallet : Wallet ω) (s : σ) (w : ω) (session : Session)
      (token : Token) (amount : Amount),
      ((session.needsApproval token amount).run chain wallet s w).result = .ok true ↔
        token.kind = .nep21 ∧
          ∃ allowed, ((session.allowance token).run chain wallet s w).result = .ok allowed ∧
            allowed < amount) ∧
    ((∀ before action, before ++ [action] <+: actions → action.raisesApproval →
        Session.SaysNeeded (initial.updates before).swap.input.kind) →
      ∀ before, before <+: actions → (initial.updates before).ApprovalFits) := by
  have hiff : (∀ before, before <+: actions → (initial.updates before).ApprovalFits) ↔
      ∀ before action, before ++ [action] <+: actions → action.raisesApproval →
        (initial.updates before).swap.input.kind = some .nep21 := by
    apply forall_prefix_iff approvalFits_initial
    intro before action _ hfits
    rw [updates_concat]
    exact ⟨fun h hraises => kind_of_raisesApproval hraises h, hfits.update⟩
  refine ⟨hiff, fun _ _ _ _ _ _ => Session.needsApproval_eq_true_iff, ?_⟩
  intro hsaid
  exact hiff.mpr fun before action hb hraises => (hsaid before action hb hraises).kind_eq

def threeAllowed : Chain Unit where
  view _ s := (.ok (.string "3"), s)
  balance _ s := (.error .notSignedIn, s)

/-- A session that is asked about five units of a token says that an approval is needed, and the
mark is raised. -/
theorem approval_fits_exactly_asked :
    let asked : List Action := [.pick .swapIn ⟨"DAI", .nep21, 3, "dai.testnet", none⟩,
      .setApproval false, .setAllowance ⟨3⟩ (some true)]
    Session.SaysNeeded (some .nep21) ∧
    (∀ before action, before ++ [action] <+: asked → action.raisesApproval →
      Session.SaysNeeded (initial.updates before).swap.input.kind) ∧
    (initial.updates asked).swap.needsApproval = true ∧ (initial.updates asked).ApprovalFits := by
  intro asked
  have hneeded : Session.SaysNeeded (some .nep21) := by
    refine ⟨Unit, Option Nat, threeAllowed, Script.wallet (some "alice.testnet"), (), none,
      ⟨⟨"amm.testnet"⟩, some "alice.testnet"⟩, ⟨"DAI", .nep21, "dai.testnet"⟩, ⟨5⟩, rfl, ?_⟩
    rfl
  have hsaid : ∀ before action, before ++ [action] <+: asked → action.raisesApproval →
      Session.SaysNeeded (initial.updates before).swap.input.kind := by
    rintro before action ⟨after, hrun⟩ hraises
    rcases before with _ | ⟨first, _ | ⟨second, _ | ⟨third, rest⟩⟩⟩ <;>
      simp only [asked, List.nil_append, List.cons_append, List.cons.injEq] at hrun
    · obtain ⟨rfl, -⟩ := hrun
      contradiction
    · obtain ⟨rfl, rfl, -⟩ := hrun
      contradiction
    · obtain ⟨rfl, rfl, rfl, -⟩ := hrun
      exact hneeded
    · simp at hrun
  exact ⟨hneeded, hsaid, rfl, (approval_fits_exactly asked).2.2 hsaid asked List.prefix_rfl⟩

end Form

end SwapDesk
