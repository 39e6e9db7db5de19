import TicketCheckout.Proofs.Run

/-!
# Unique keys

The store's constraints keep five keys unique (`Tables.Keyed`): offer ids, seat places, order
references, the order of a payment and a payment's reference. In a list whose keys are unique a
row splits the list into the rows before and after it, none with its key (`split_at_key`), and a
guarded update whose guard names that key changes that row alone (`map_guarded_split`). So an
order move or a settlement that reports a move changed exactly one row (`moveOrder_split`,
`settleByReference_split`, `settleOf_split`), and looking a row's key up finds the row
(`Keyed.order?_of_mem`).

The two loops inside a unit of work, reserving a cart and giving back an order's lines, change
inventory alone (`Reserved.restock`, `Released.restock`).
-/

namespace TicketCheckout

open Store

namespace Store

variable {α κ : Type}

/-- In a list whose keys are distinct, a member splits the list into the rows before it and the
rows after it, none of which shares its key. -/
theorem split_at_key {key : α → κ} {l : List α} {x : α} (hl : (l.map key).Nodup) (hx : x ∈ l) :
    ∃ pre post, l = pre ++ x :: post ∧ ∀ y ∈ pre ++ post, key y ≠ key x := by
  obtain ⟨pre, post, rfl⟩ := List.append_of_mem hx
  refine ⟨pre, post, rfl, ?_⟩
  rw [List.map_append, List.map_cons, List.nodup_append] at hl
  obtain ⟨-, hpost, hdisjoint⟩ := hl
  intro y hy
  rcases List.mem_append.1 hy with hy | hy
  · exact hdisjoint (key y) (List.mem_map_of_mem hy) (key x) List.mem_cons_self
  · intro he
    exact (List.nodup_cons.1 hpost).1 (he ▸ List.mem_map_of_mem hy)

theorem map_guarded_split {p : α → Bool} (f : α → α) {pre post : List α} {x : α}
    (hx : p x = true) (hrest : ∀ y ∈ pre ++ post, p y = false) :
    (pre ++ x :: post).map (fun y => if p y then f y else y) = pre ++ f x :: post := by
  have hkeep : ∀ l : List α, (∀ y ∈ l, p y = false) →
      l.map (fun y => if p y then f y else y) = l := fun l hl =>
    (List.map_congr_left fun y hy => by simp [hl y hy]).trans (List.map_id l)
  rw [List.map_append, List.map_cons, if_pos hx,
    hkeep pre fun y hy => hrest y (List.mem_append_left _ hy),
    hkeep post fun y hy => hrest y (List.mem_append_right _ hy)]

theorem find?_split [BEq κ] [LawfulBEq κ] {key : α → κ} {pre post : List α} {x : α}
    (hpre : ∀ y ∈ pre, key y ≠ key x) :
    (pre ++ x :: post).find? (fun y => key y == key x) = some x := by
  have hnone : pre.find? (fun y => key y == key x) = none :=
    List.find?_eq_none.2 fun y hy => by simpa using hpre y hy
  simp [List.find?_append, hnone]

theorem find?_of_mem [BEq κ] [LawfulBEq κ] {key : α → κ} {l : List α} {x : α}
    (hl : (l.map key).Nodup) (hx : x ∈ l) : l.find? (fun y => key y == key x) = some x := by
  obtain ⟨pre, post, rfl, hothers⟩ := split_at_key hl hx
  exact find?_split fun y hy => hothers y (List.mem_append_left _ hy)

theorem filter_key_of_mem [BEq κ] [LawfulBEq κ] {key : α → κ} {l : List α} {x : α}
    (hl : (l.map key).Nodup) (hx : x ∈ l) : l.filter (fun y => key y == key x) = [x] := by
  obtain ⟨pre, post, rfl, hothers⟩ := split_at_key hl hx
  have hnone : ∀ l' : List α, (∀ y ∈ l', key y ≠ key x) →
      l'.filter (fun y => key y == key x) = [] := fun l' hl' =>
    List.filter_eq_nil_iff.2 fun y hy => by simpa using hl' y hy
  rw [List.filter_append, List.filter_cons_of_pos (by simp),
    hnone pre fun y hy => hothers y (List.mem_append_left _ hy),
    hnone post fun y hy => hothers y (List.mem_append_right _ hy)]
  rfl

theorem mem_split {pre post : List α} {x y : α} :
    x ∈ pre ++ y :: post ↔ x = y ∨ x ∈ pre ++ post := by
  simp only [List.mem_append, List.mem_cons, or_left_comm]

/-- The keys the store's constraints keep unique: offer ids, seat places, order references, the
order of a payment and a payment's reference. -/
structure Tables.Keyed (st : Tables) : Prop where
  offer_ids : (st.offers.map (·.id)).Nodup
  seat_places : (st.seats.map SeatRow.place).Nodup
  order_refs : (st.orders.map (·.ref)).Nodup
  payment_orders : (st.payments.map (·.order)).Nodup
  payment_references : (st.payments.map (·.reference)).Nodup

namespace Tables

variable {st st' : Tables}

theorem Fresh.keyed (h : st.Fresh) : st.Keyed :=
  ⟨h.offer_ids, h.seat_places, by simp [h.no_orders], by simp [h.no_payments],
    by simp [h.no_payments]⟩

theorem Keyed.restock (hk : st.Keyed) (h : Restock st st') : st'.Keyed :=
  ⟨h.offer_ids ▸ hk.offer_ids, h.seat_places ▸ hk.seat_places, h.orders ▸ hk.order_refs,
    h.payments ▸ hk.payment_orders, h.payments ▸ hk.payment_references⟩

theorem Keyed.order?_of_mem (hk : st.Keyed) {o : OrderRow} (ho : o ∈ st.orders) :
    st.order? o.ref = some o :=
  find?_of_mem hk.order_refs ho

theorem Keyed.offer?_of_mem (hk : st.Keyed) {f : OfferRow} (hf : f ∈ st.offers) :
    st.offer? f.id = some f :=
  find?_of_mem hk.offer_ids hf

/-! ## Moves of a row with a unique key -/

variable {ref : OrderRef}

/-- An order move that reports a move, in a store whose order references are unique, moved one
pending order and nothing else. -/
theorem moveOrder_split (hk : (st.orders.map (·.ref)).Nodup) {target : OrderStatus}
    {now : Instant} (h : st.moveOrder ref target now = (st', true)) :
    ∃ pre o post, st.orders = pre ++ o :: post ∧ o.ref = ref ∧
      o.status = OrderStatus.pending.name ∧ (∀ x ∈ pre ++ post, x.ref ≠ ref) ∧
      st' = { st with orders := pre ++ o.withStatus target now :: post } := by
  obtain ⟨rfl, o, ho, href, hpending⟩ := moveOrder_true h
  obtain ⟨pre, post, hsplit, hothers⟩ := split_at_key hk ho
  refine ⟨pre, o, post, hsplit, href, hpending, fun x hx => href ▸ hothers x hx, ?_⟩
  rw [hsplit, map_guarded_split _ (by simp [href, hpending])]
  intro y hy
  simp [href ▸ hothers y hy]

/-- A settlement by reference that reports an order, in a store whose payment references are
unique, moved one pending payment of that order and nothing else. -/
theorem settleByReference_split (hk : (st.payments.map (·.reference)).Nodup) {reference : String}
    {target : PaymentStatus} (h : st.settleByReference reference target = (st', some ref)) :
    ∃ pre p post, st.payments = pre ++ p :: post ∧ p.reference = reference ∧
      p.status = PaymentStatus.pending.name ∧ p.order = ref ∧
      st' = { st with payments := pre ++ p.withStatus target :: post } := by
  obtain ⟨rfl, p, hp, hreference, hpending, horder⟩ := settleByReference_some h
  obtain ⟨pre, post, hsplit, hothers⟩ := split_at_key hk hp
  refine ⟨pre, p, post, hsplit, hreference, hpending, horder, ?_⟩
  rw [hsplit, map_guarded_split _ (by simp [hreference, hpending])]
  intro q hq
  simp [hreference ▸ hothers q hq]

/-- A settlement of an order's payment that reports a move, in a store where each order has one
payment at most, moved that one pending payment and nothing else. -/
theorem settleOf_split (hk : (st.payments.map (·.order)).Nodup) {target : PaymentStatus}
    (h : st.settleOf ref target = (st', true)) :
    ∃ pre p post, st.payments = pre ++ p :: post ∧ p.order = ref ∧
      p.status = PaymentStatus.pending.name ∧
      st' = { st with payments := pre ++ p.withStatus target :: post } := by
  obtain ⟨rfl, p, hp, horder, hpending⟩ := settleOf_true h
  obtain ⟨pre, post, hsplit, hothers⟩ := split_at_key hk hp
  refine ⟨pre, p, post, hsplit, horder, hpending, ?_⟩
  rw [hsplit, map_guarded_split _ (by simp [horder, hpending])]
  intro q hq
  simp [horder ▸ hothers q hq]

end Tables

end Store

/-! ## The loops of a unit of work change inventory alone -/

theorem Reserved.restock {ref : OrderRef} {expiresAt : Instant} {lines : List CartLine}
    {st st' : Tables} {ls : List OrderLine} (h : Reserved ref expiresAt lines st ls st') :
    Tables.Restock st st' := by
  induction h with
  | nil st => exact .refl st
  | @cons line rest st st₁ st₂ offer ls hoffer htake hrest ih =>
    have hfirst : Tables.Restock st st₁ := by
      cases hseat : line.seatId with
      | none =>
        simp only [hseat] at htake
        exact Tables.reserve_restock htake
      | some seat =>
        simp only [hseat] at htake
        exact Tables.lockSeat_restock htake
    exact hfirst.trans ih

theorem Released.restock {holder : OrderRef} {lines : List OrderLine} {st st' : Tables}
    (h : Released holder lines st st') : Tables.Restock st st' := by
  induction h with
  | nil st => exact .refl st
  | units _ hrelease _ ih => exact (Tables.release_restock hrelease).trans ih
  | unlocked _ hunlock _ ih => exact (Tables.unlockSeat_restock hunlock).trans ih
  | skipped _ _ _ ih => exact ih

end TicketCheckout
