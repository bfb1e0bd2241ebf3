import SwapDesk.Proofs.Session.TwoSided

/-!
# Quotes and swaps

A quote asks what an amount is worth and a swap trades it. Both read the amount from the same text
and find the same route, each on its own, so what has been quoted is what is sold or bought. What
a quote asks is said without the builders of the calls.
-/

namespace SwapDesk

variable {σ ω : Type}

namespace ViewCall

/-- The call has these arguments and no others. -/
def HasArgs (call : ViewCall) (args : List (String × Argument)) : Prop :=
  ∃ fields, call.args = .object fields ∧
    List.Forall₂ (fun arg field => field.1 = arg.1 ∧ arg.2.Is field.2) args fields

theorem hasArgs_of_json {call : ViewCall} {args : List (String × Argument)}
    (h : call.args = .object (args.map fun arg => (arg.1, arg.2.json))) : call.HasArgs args := by
  refine ⟨_, h, List.forall₂_map_right_iff.mpr (List.forall₂_same.mpr ?_)⟩
  intro arg _
  exact ⟨rfl, arg.2.is_json⟩

/-- The call is of a read-only method of the market maker, with these arguments. -/
structure Asks (call : ViewCall) (amm : Amm) (method : String) (args : List (String × Argument)) :
    Prop where
  known : method ∈ Amm.viewMethods
  contract : call.contract = amm.contract
  method : call.method = method
  args : call.HasArgs args

/-- The call asks what selling the amount brings. -/
def PricesSale (call : ViewCall) (amm : Amm) (source target : Token) (sold : Amount) : Prop :=
  match source.kind, target.kind with
  | .native, .nep21 =>
    call.Asks amm "price_near_to_token_in"
      [("token", .account target.address), ("ynear_in", .amount sold)]
  | .nep21, .native =>
    call.Asks amm "price_token_to_near_in"
      [("token", .account source.address), ("tokens_in", .amount sold)]
  | .nep21, .nep21 =>
    call.Asks amm "price_token_to_token_in"
      [("from", .account source.address), ("to", .account target.address),
        ("tokens_in", .amount sold)]
  | _, _ => False

/-- The call asks what buying the amount costs. -/
def PricesPurchase (call : ViewCall) (amm : Amm) (source target : Token) (bought : Amount) :
    Prop :=
  match source.kind, target.kind with
  | .native, .nep21 =>
    call.Asks amm "price_near_to_token_out"
      [("token", .account target.address), ("tokens_out", .amount bought)]
  | .nep21, .native =>
    call.Asks amm "price_token_to_near_out"
      [("token", .account source.address), ("ynear_out", .amount bought)]
  | .nep21, .nep21 =>
    call.Asks amm "price_token_to_token_out"
      [("from", .account source.address), ("to", .account target.address),
        ("tokens_out", .amount bought)]
  | _, _ => False

end ViewCall

/-! ## Calls as they are built -/

namespace Amm

variable (amm : Amm) {source target : Token} {route : Route}

private theorem view_asks {method : String} {args : List (String × Argument)}
    {fields : List (String × Json)} (h : method ∈ viewMethods)
    (hfields : fields = args.map fun arg => (arg.1, arg.2.json)) :
    (amm.view method fields).Asks amm method args :=
  ⟨h, rfl, rfl, ViewCall.hasArgs_of_json (hfields ▸ rfl)⟩

theorem priceIn_pricesSale (h : Route.between source target = .ok route) (sold : Amount) :
    (amm.priceIn route sold).PricesSale amm source target sold := by
  obtain ⟨hs, ht, rfl⟩ | ⟨hs, ht, rfl⟩ | ⟨hs, ht, rfl⟩ := Route.between_cases h
  · rw [ViewCall.PricesSale, hs, ht]
    exact view_asks amm (by decide) rfl
  · rw [ViewCall.PricesSale, hs, ht]
    exact view_asks amm (by decide) rfl
  · rw [ViewCall.PricesSale, hs, ht]
    exact view_asks amm (by decide) rfl

theorem priceOut_pricesPurchase (h : Route.between source target = .ok route) (bought : Amount) :
    (amm.priceOut route bought).PricesPurchase amm source target bought := by
  obtain ⟨hs, ht, rfl⟩ | ⟨hs, ht, rfl⟩ | ⟨hs, ht, rfl⟩ := Route.between_cases h
  · rw [ViewCall.PricesPurchase, hs, ht]
    exact view_asks amm (by decide) rfl
  · rw [ViewCall.PricesPurchase, hs, ht]
    exact view_asks amm (by decide) rfl
  · rw [ViewCall.PricesPurchase, hs, ht]
    exact view_asks amm (by decide) rfl

theorem poolInfo_asks (token : Token) :
    (amm.poolInfo token.address).Asks amm "pool_info" [("token", .account token.address)] :=
  view_asks amm (by decide) rfl

end Amm

/-! ## Runs -/

/-- Every wallet that accepts the call gets it from the dialog, and nothing else happens. -/
def Dialog.Submits (dialog : Dialog FunctionCall) (call : FunctionCall) : Prop :=
  ∀ (σ ω : Type) (chain : Chain σ) (wallet : Wallet ω) (s : σ) (w : ω),
    (wallet.submit call w).1 = .ok () →
      let outcome := dialog.run chain wallet s w
      outcome.result = .ok call ∧ outcome.submitted = [call] ∧ outcome.queries = []

namespace Session

variable {source target : Token} {amount : String}

theorem send_submits (call : FunctionCall) : (send call).Submits call := by
  intro σ ω chain wallet s w haccepts
  rcases hsubmit : wallet.submit call w with ⟨reply, w'⟩
  rw [hsubmit] at haccepts
  cases haccepts
  rw [run_send chain wallet hsubmit]
  exact ⟨rfl, rfl, rfl⟩

/-- A quote in either direction. -/
def quote (price : Route → Amount → ViewCall) (source target : Token) (amount : String) :
    Dialog Amount := do
  let traded ← typed amount
  if traded.isZero then return .zero
  let route ← Route.between source target
  viewAmount (price route traded)

theorem quoteFromIn_eq_quote (session : Session) :
    session.quoteFromIn source target amount = quote session.amm.priceIn source target amount :=
  rfl

theorem quoteFromOut_eq_quote (session : Session) :
    session.quoteFromOut source target amount = quote session.amm.priceOut source target amount :=
  rfl

theorem run_viewAmount {call : ViewCall} {reply : Except ClientError Json} {chain : Chain σ}
    {s s' : σ} (h : chain.view call s = (reply, s')) (wallet : Wallet ω) (w : ω) :
    (viewAmount call).run chain wallet s w =
      ⟨reply.bind (readAmount call.method), [.asked (.view call) reply.isOk], s', w⟩ := by
  rw [viewAmount, Dialog.run_bind, Dialog.run_view chain wallet h]
  cases reply <;> simp [Except.bind]

theorem queries_viewAmount (call : ViewCall) (chain : Chain σ) (wallet : Wallet ω) (s : σ) (w : ω) :
    ((viewAmount call).run chain wallet s w).queries = [.view call] := by
  rw [run_viewAmount rfl]
  rfl

theorem quote_eq (price : Route → Amount → ViewCall) :
    quote price source target amount =
      match Amount.ofHuman amount with
      | .error e => .fail (.amount e)
      | .ok traded =>
        if traded.isZero then .done .zero
        else
          match Route.between source target with
          | .error e => .fail e
          | .ok route => viewAmount (price route traded) := by
  rw [quote, typed_bind]
  cases Amount.ofHuman amount with
  | error e => rfl
  | ok traded =>
    dsimp only
    split
    · rfl
    · rw [Dialog.lift_bind]
      cases Route.between source target <;> rfl

theorem quote_of_queries {price : Route → Amount → ViewCall} {chain : Chain σ} {wallet : Wallet ω}
    {s : σ} {w : ω}
    (h : ((quote price source target amount).run chain wallet s w).queries ≠ []) :
    ∃ traded route, Amount.ofHuman amount = .ok traded ∧ traded.isZero = false ∧
      Route.between source target = .ok route ∧
      ((quote price source target amount).run chain wallet s w).queries =
        [.view (price route traded)] := by
  rw [quote_eq] at h ⊢
  -- On every way but one the quote ends before it asks.
  cases hamount : Amount.ofHuman amount with
  | error e =>
    rw [hamount] at h
    contradiction
  | ok traded =>
    cases hzero : traded.isZero with
    | true =>
      simp only [hamount, hzero] at h
      contradiction
    | false =>
      cases hroute : Route.between source target with
      | error e =>
        simp only [hamount, hzero, hroute] at h
        contradiction
      | ok route =>
        refine ⟨traded, route, rfl, hzero, rfl, ?_⟩
        simp only [hzero, Bool.false_eq_true, if_false, queries_viewAmount]

theorem swapFromIn_eq_send {session : Session} {least : String} {route : Route}
    {sold bound : Amount} (haccount : session.account.isSome)
    (hroute : Route.between source target = .ok route)
    (hsold : Amount.ofHuman amount = .ok sold) (hbound : Amount.ofHuman least = .ok bound)
    (hnonzero : sold.isZero = false) (hpositive : bound.isZero = false) :
    session.swapFromIn source target amount least =
      send (session.amm.swapExactIn route sold bound) := by
  obtain ⟨account, haccount⟩ := Option.isSome_iff_exists.mp haccount
  simp only [swapFromIn, signedIn_bind, haccount, Dialog.lift_bind, hroute, typed_bind, hsold,
    hbound, hnonzero, hpositive, Bool.or_self, Bool.false_eq_true, if_false]

/-- What a quote has asked for is what a swap of the same tokens and the same text then trades,
on the same route: the amount is the one that the text writes, it is above zero, and the limit is
the one that is given. -/
theorem quotes_agree_with_swaps (amm : Amm) (user : Option String) (source target : Token)
    (amount : String) (chain : Chain σ) (wallet : Wallet ω) (s : σ) (w : ω) :
    let sale := (Session.quoteFromIn ⟨amm, user⟩ source target amount).run chain wallet s w
    let purchase := (Session.quoteFromOut ⟨amm, user⟩ source target amount).run chain wallet s w
    (sale.queries ≠ [] → ∃ (sold : Amount) (view : ViewCall),
      Amount.Writes amount sold ∧ 0 < sold.units ∧
      sale.queries = [.view view] ∧ view.PricesSale amm source target sold ∧
      ∀ account least bound, Amount.Writes least bound → 0 < bound.units →
        ∃ call : FunctionCall, call.Sells amm source target sold bound ∧
          (Session.swapFromIn ⟨amm, some account⟩ source target amount least).Submits call) ∧
    (purchase.queries ≠ [] → ∃ (bought : Amount) (view : ViewCall),
      Amount.Writes amount bought ∧ 0 < bought.units ∧
      purchase.queries = [.view view] ∧ view.PricesPurchase amm source target bought ∧
      ∀ account most, ∃ call : FunctionCall, call.Buys amm source target bought most ∧
        (Session.swapFromOut ⟨amm, some account⟩ source target most amount).Submits call) := by
  simp only [quoteFromIn_eq_quote, quoteFromOut_eq_quote]
  constructor
  · intro hasked
    obtain ⟨sold, route, hsold, hnonzero, hroute, hqueries⟩ := quote_of_queries hasked
    refine ⟨sold, _, Amount.ofHuman_eq_ok_iff.mp hsold, Amount.isZero_eq_false_iff.mp hnonzero,
      hqueries, amm.priceIn_pricesSale hroute sold, ?_⟩
    intro account least bound hbound hpositive
    rw [← Amount.ofHuman_eq_ok_iff] at hbound
    rw [← Amount.isZero_eq_false_iff] at hpositive
    refine ⟨_, amm.swapExactIn_sells hroute sold bound, ?_⟩
    rw [swapFromIn_eq_send rfl hroute hsold hbound hnonzero hpositive]
    exact send_submits _
  · intro hasked
    obtain ⟨bought, route, hbought, hnonzero, hroute, hqueries⟩ := quote_of_queries hasked
    refine ⟨bought, _, Amount.ofHuman_eq_ok_iff.mp hbought,
      Amount.isZero_eq_false_iff.mp hnonzero, hqueries,
      amm.priceOut_pricesPurchase hroute bought, ?_⟩
    intro account most
    refine ⟨_, amm.swapExactOut_buys hroute bought most, ?_⟩
    rw [swapFromOut_eq_send rfl hroute hbought hnonzero]
    exact send_submits _

/-- One NEAR is priced and sold for at least two of a token, and one of the token is priced and
bought for at most nothing. -/
theorem quotes_agree_with_swaps_near :
    let amm : Amm := ⟨"amm.testnet"⟩
    let dai : Token := ⟨"DAI", .nep21, "dai.testnet"⟩
    let wallet := Script.wallet none
    let sale :=
      (Session.quoteFromIn ⟨amm, none⟩ .near dai "1").run Script.chain wallet [] none
    let purchase :=
      (Session.quoteFromOut ⟨amm, none⟩ .near dai "1").run Script.chain wallet [] none
    sale.queries ≠ [] ∧ purchase.queries ≠ [] ∧ Amount.Writes "2" ⟨2 * 10 ^ 24⟩ ∧
      (∃ (sold : Amount) (call : FunctionCall), call.Sells amm .near dai sold ⟨2 * 10 ^ 24⟩ ∧
        (Session.swapFromIn ⟨amm, some "bob.testnet"⟩ .near dai "1" "2").Submits call) ∧
      ∃ (bought : Amount) (call : FunctionCall), call.Buys amm .near dai bought .zero ∧
        (Session.swapFromOut ⟨amm, some "bob.testnet"⟩ .near dai .zero "1").Submits call := by
  intro amm dai wallet sale purchase
  have hsale : sale.queries ≠ [] := List.cons_ne_nil _ _
  have hpurchase : purchase.queries ≠ [] := List.cons_ne_nil _ _
  have hbound : Amount.Writes "2" ⟨2 * 10 ^ 24⟩ := Amount.ofHuman_eq_ok_iff.mp rfl
  obtain ⟨hagree, hagree'⟩ :=
    quotes_agree_with_swaps amm none .near dai "1" Script.chain wallet [] none
  obtain ⟨sold, -, -, -, -, -, hsell⟩ := hagree hsale
  obtain ⟨bought, -, -, -, -, -, hbuy⟩ := hagree' hpurchase
  exact ⟨hsale, hpurchase, hbound, ⟨sold, hsell "bob.testnet" "2" _ hbound (by decide)⟩,
    bought, hbuy "bob.testnet" .zero⟩

end Session

end SwapDesk
