import SwapDesk.Proofs.Amount.Zero
import SwapDesk.Proofs.Session.Purchase

/-!
# What a quote asks

A quote asks the chain for one price, or it is settled before it asks anything: by a text that is
no amount, by a spelling of zero, or by tokens without a route, in this order. Both directions of a
quote are settled in the same way.
-/

namespace SwapDesk

variable {σ ω α : Type}

namespace Dialog

/-- Every run of the dialog has this result, and nothing passes in it. -/
def Settles (dialog : Dialog α) (result : Except ClientError α) : Prop :=
  ∀ (σ ω : Type) (chain : Chain σ) (wallet : Wallet ω) (s : σ) (w : ω),
    let outcome := dialog.run chain wallet s w
    outcome.result = result ∧ outcome.events = []

private theorem settles_done (a : α) : (done a).Settles (.ok a) :=
  fun _ _ _ _ _ _ => ⟨rfl, rfl⟩

private theorem settles_fail (e : ClientError) : (fail e : Dialog α).Settles (.error e) :=
  fun _ _ _ _ _ _ => ⟨rfl, rfl⟩

end Dialog

private theorem Route.between_of_no_route {source target : Token}
    (h : ∀ route, between source target ≠ .ok route) :
    between source target = .error (.noRoute source.kind target.kind) := by
  cases hresult : between source target with
  | ok route => exact absurd hresult (h route)
  | error e =>
    rw [between] at hresult
    split at hresult
    · contradiction
    · contradiction
    · contradiction
    · cases hresult
      rfl

namespace Session

variable {source target : Token} {text : String} {price : Route → Amount → ViewCall}
  {traded : Amount} {route : Route}

/-- The text writes more than nothing, and the tokens have a route. -/
def HasPrice (source target : Token) (text : String) : Prop :=
  ∃ (traded : Amount) (route : Route), Amount.Writes text traded ∧ 0 < traded.units ∧
    Route.between source target = .ok route

/-- How a quote ends in every run, and what it asks: the view for the price of an amount is one
that `prices` describes. -/
structure QuotesBy (prices : ViewCall → Amount → Prop) (source target : Token) (text : String)
    (dialog : Dialog Amount) : Prop where
  malformed {e : AmountError} : Amount.ofHuman text = .error e →
    dialog.Settles (.error (.amount e))
  nothing : Amount.SpellsZero text → dialog.Settles (.ok .zero)
  unserved {traded : Amount} : Amount.Writes text traded → 0 < traded.units →
    (∀ route, Route.between source target ≠ .ok route) →
    dialog.Settles (.error (.noRoute source.kind target.kind))
  priced {traded : Amount} {route : Route} : Amount.Writes text traded → 0 < traded.units →
    Route.between source target = .ok route →
    ∃ call, prices call traded ∧ dialog.Relays call (readAmount call.method)
  asks_iff {σ ω : Type} (chain : Chain σ) (wallet : Wallet ω) (s : σ) (w : ω) :
    (∃ call granted, (dialog.run chain wallet s w).events = [.asked (.view call) granted]) ↔
      HasPrice source target text
  silent_iff {σ ω : Type} (chain : Chain σ) (wallet : Wallet ω) (s : σ) (w : ω) :
    (dialog.run chain wallet s w).events = [] ↔ ¬ HasPrice source target text

theorem quote_eq_of_pos (htraded : Amount.Writes text traded) (hpos : 0 < traded.units) :
    quote price source target text =
      match Route.between source target with
      | .error e => .fail e
      | .ok route => viewAmount (price route traded) := by
  rw [← Amount.ofHuman_eq_ok_iff] at htraded
  rw [← Amount.isZero_eq_false_iff] at hpos
  rw [quote_eq, htraded]
  dsimp only
  rw [hpos]
  exact if_neg Bool.false_ne_true

private theorem quote_eq_viewAmount (htraded : Amount.Writes text traded) (hpos : 0 < traded.units)
    (hroute : Route.between source target = .ok route) :
    quote price source target text = viewAmount (price route traded) := by
  rw [quote_eq_of_pos htraded hpos, hroute]

private theorem settles_quote_of_malformed {e : AmountError} (h : Amount.ofHuman text = .error e) :
    (quote price source target text).Settles (.error (.amount e)) := by
  simp only [quote_eq, h]
  exact Dialog.settles_fail _

private theorem settles_quote_of_zero (h : Amount.SpellsZero text) :
    (quote price source target text).Settles (.ok .zero) := by
  have hzero : Amount.ofHuman text = .ok .zero :=
    Amount.ofHuman_eq_ok_iff.mpr (Amount.writes_zero_iff.mpr h)
  simp only [quote_eq, hzero]
  exact Dialog.settles_done _

private theorem settles_quote_of_no_route (htraded : Amount.Writes text traded)
    (hpos : 0 < traded.units) (hroute : ∀ route, Route.between source target ≠ .ok route) :
    (quote price source target text).Settles (.error (.noRoute source.kind target.kind)) := by
  rw [quote_eq_of_pos htraded hpos, Route.between_of_no_route hroute]
  exact Dialog.settles_fail _

/-- A run of a quote makes one view if there is a price to ask for, and is silent if not. -/
theorem events_quote (price : Route → Amount → ViewCall) (source target : Token) (text : String)
    (chain : Chain σ) (wallet : Wallet ω) (s : σ) (w : ω) :
    let events := ((quote price source target text).run chain wallet s w).events
    (HasPrice source target text ∧ ∃ call granted, events = [.asked (.view call) granted]) ∨
      ¬ HasPrice source target text ∧ events = [] := by
  by_cases hprice : HasPrice source target text
  · obtain ⟨traded, route, htraded, hpos, hroute⟩ := hprice
    rw [quote_eq_viewAmount htraded hpos hroute]
    obtain ⟨-, hevents⟩ := relays_viewAmount (price route traded) σ ω chain wallet s w
    exact .inl ⟨⟨traded, route, htraded, hpos, hroute⟩, _, _, hevents⟩
  · refine .inr ⟨hprice, ?_⟩
    cases hamount : Amount.ofHuman text with
    | error e => exact (settles_quote_of_malformed hamount σ ω chain wallet s w).2
    | ok traded =>
      have htraded := Amount.ofHuman_eq_ok_iff.mp hamount
      obtain hzero | hpos := Nat.eq_zero_or_pos traded.units
      · have hspelled : Amount.SpellsZero text := by
          rw [← Amount.writes_zero_iff, Amount.zero, ← hzero]
          exact htraded
        exact (settles_quote_of_zero hspelled σ ω chain wallet s w).2
      · have hroute : ∀ route, Route.between source target ≠ .ok route :=
          fun route hroute => hprice ⟨traded, route, htraded, hpos, hroute⟩
        exact (settles_quote_of_no_route htraded hpos hroute σ ω chain wallet s w).2

theorem quotesBy_quote {prices : ViewCall → Amount → Prop}
    (hprice : ∀ route traded, Route.between source target = .ok route →
      prices (price route traded) traded) :
    QuotesBy prices source target text (quote price source target text) where
  malformed := settles_quote_of_malformed
  nothing := settles_quote_of_zero
  unserved := settles_quote_of_no_route
  priced := by
    intro traded route htraded hpos hroute
    rw [quote_eq_viewAmount htraded hpos hroute]
    exact ⟨_, hprice route traded hroute, relays_viewAmount _⟩
  asks_iff := by
    intro σ ω chain wallet s w
    obtain ⟨hprice, call, granted, hevents⟩ | ⟨hnone, hevents⟩ :=
      events_quote price source target text chain wallet s w
    · simp [hprice, hevents]
    · simp [hnone, hevents]
  silent_iff := by
    intro σ ω chain wallet s w
    obtain ⟨hprice, call, granted, hevents⟩ | ⟨hnone, hevents⟩ :=
      events_quote price source target text chain wallet s w
    · simp [hprice, hevents]
    · simp [hnone, hevents]

/-- Both directions of a quote end in the same way, whoever is signed in and whatever the chain
answers. A text that is no amount is refused, whatever the tokens; zero in any of its spellings is
worth nothing, whatever the tokens; of any other amount tokens without a route are refused. In all
of these cases nothing is asked. In the one that is left the chain is asked for the price of the
amount that the text writes, once and for nothing else, and the result is read in the reply. -/
theorem quotes_ask_once (session : Session) (source target : Token) (text : String) :
    QuotesBy (fun call sold => call.PricesSale session.amm source target sold) source target text
        (session.quoteFromIn source target text) ∧
      QuotesBy (fun call bought => call.PricesPurchase session.amm source target bought) source
        target text (session.quoteFromOut source target text) := by
  rw [quoteFromIn_eq_quote, quoteFromOut_eq_quote]
  constructor
  · apply quotesBy_quote
    intro route sold hroute
    exact session.amm.priceIn_pricesSale hroute sold
  · apply quotesBy_quote
    intro route bought hroute
    exact session.amm.priceOut_pricesPurchase hroute bought

/-- A comma, zeros between blanks, half a bridged token and half a token with a contract. -/
theorem quotes_ask_once_spelled :
    let session : Session := ⟨⟨"amm.testnet"⟩, none⟩
    let dai : Token := ⟨"DAI", .nep21, "dai.testnet"⟩
    let bridged : Token := ⟨"0x1", .erc20, "0x1"⟩
    let comma : AmountError := ⟨"1,5", .unexpected ',' 1⟩
    let half : Amount := ⟨5 * 10 ^ 23⟩
    Amount.ofHuman "1,5" = .error comma ∧
      (session.quoteFromIn bridged .near "1,5").Settles (.error (.amount comma)) ∧
      Amount.SpellsZero "\t000.0 " ∧
      (session.quoteFromOut bridged .near "\t000.0 ").Settles (.ok .zero) ∧
      Amount.Writes ".50" half ∧ (∀ route, Route.between bridged .near ≠ .ok route) ∧
      (session.quoteFromOut bridged .near ".50").Settles (.error (.noRoute .erc20 .native)) ∧
      Route.between dai .near = .ok (.tokenToNear "dai.testnet") ∧
      ∃ call : ViewCall, call.PricesSale session.amm dai .near half ∧
        let outcome := (session.quoteFromIn dai .near ".50").run Script.chain
          (Script.wallet session.account) [.value (.string "12")] none
        outcome.result = .ok ⟨12⟩ ∧ outcome.events = [.asked (.view call) true] := by
  intro session dai bridged comma half
  have hcomma : Amount.ofHuman "1,5" = .error comma := rfl
  have hzeros : Amount.SpellsZero "\t000.0 " :=
    ⟨['\t'], ['0', '0', '0', '.', '0'], [' '], rfl, List.forall_mem_singleton.mpr rfl,
      List.forall_mem_singleton.mpr rfl, .pointed 3 1⟩
  have hhalf : Amount.Writes ".50" half := Amount.ofHuman_eq_ok_iff.mp rfl
  have hunserved : ∀ route, Route.between bridged .near ≠ .ok route := nofun
  have hroute : Route.between dai .near = .ok (.tokenToNear "dai.testnet") := rfl
  obtain ⟨hsale, -⟩ := quotes_ask_once session bridged .near "1,5"
  obtain ⟨-, hzero⟩ := quotes_ask_once session bridged .near "\t000.0 "
  obtain ⟨-, hrefused⟩ := quotes_ask_once session bridged .near ".50"
  obtain ⟨call, hprices, hrelays⟩ :=
    (quotes_ask_once session dai .near ".50").1.priced hhalf (by decide) hroute
  exact ⟨hcomma, hsale.malformed hcomma, hzeros, hzero.nothing hzeros, hhalf, hunserved,
    hrefused.unserved hhalf (by decide) hunserved, hroute, call, hprices,
    hrelays _ _ Script.chain (Script.wallet session.account) [.value (.string "12")] none⟩

end Session

end SwapDesk
