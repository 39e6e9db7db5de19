import TicketCheckout.Proofs.Tickets

/-!
# Ticket codes are never issued twice

A ticket's redemption code is the number of the ticket in the session, in twenty hexadecimal
digits or more, so two numbers never share a code (`redemptionCode_inj`), and one issue gives
its tickets the consecutive numbers after the last one drawn (`Order.issueTickets_codes`).

Two invariants of runs follow. The store's own checks keep every integer of an order within a
stored integer and every ticket code distinct (`Tables.Checked`, kept by every commit). And the
session's counter stays ahead of the store: every stored ticket carries a code already drawn
(`Session.CodesIssued`), because a call only draws codes forward and stores only tickets it
drew codes for (`Service.DrawsCodes`). So the codes the next issue draws are on no stored
ticket, and storing its tickets passes the check of distinct codes.

Main statements: `Reachable.checked` and `Reachable.codesIssued`.
-/

namespace TicketCheckout

open Store

/-! ## Codes read back -/

namespace Text

theorem length_hexDigits (n w : Nat) : (hexDigits n w).length = w := by
  induction w generalizing n with
  | zero => rfl
  | succ w ih => simp [hexDigits, ih]

theorem hexDigit_inj {a b : Nat} (ha : a < 16) (hb : b < 16) (h : hexDigit a = hexDigit b) :
    a = b := by
  have key : ∀ a b : Fin 16, hexDigit a = hexDigit b → a = b := by decide
  exact congrArg Fin.val (key ⟨a, ha⟩ ⟨b, hb⟩ h)

theorem mod_eq_of_hexDigits {a b w : Nat} (h : hexDigits a w = hexDigits b w) :
    a % 16 ^ w = b % 16 ^ w := by
  induction w generalizing a b with
  | zero => simp [Nat.mod_one]
  | succ w ih =>
    simp only [hexDigits] at h
    obtain ⟨hhigh, hlow⟩ := List.append_inj h (by simp [length_hexDigits])
    have hdigit := hexDigit_inj (Nat.mod_lt a (by omega)) (Nat.mod_lt b (by omega))
      (List.singleton_inj.1 hlow)
    rw [Nat.pow_succ, Nat.mul_comm, Nat.mod_mul, Nat.mod_mul, ih hhigh, hdigit]

/-- Padded hexadecimal text keeps every digit of the number, so it names one number. -/
theorem hexPadded_inj {a b w : Nat} (h : hexPadded a w = hexPadded b w) : a = b := by
  have hlist := congrArg String.toList h
  simp only [hexPadded, String.toList_ofList] at hlist
  have hwidth := congrArg List.length hlist
  rw [length_hexDigits, length_hexDigits] at hwidth
  rw [← hwidth] at hlist
  -- both numbers are below sixteen to the common width, which has room for all their digits
  have hpos : 0 < max w (Nat.toDigits 16 a).length :=
    Nat.lt_of_lt_of_le Nat.length_toDigits_pos (le_max_right _ _)
  have ha : a < 16 ^ max w (Nat.toDigits 16 a).length :=
    (Nat.length_toDigits_le_iff (by omega) hpos).1 (le_max_right _ _)
  have hb : b < 16 ^ max w (Nat.toDigits 16 a).length := by
    rw [hwidth]
    exact (Nat.length_toDigits_le_iff (by omega) (hwidth ▸ hpos)).1 (le_max_right _ _)
  have hmod := mod_eq_of_hexDigits hlist
  rwa [Nat.mod_eq_of_lt ha, Nat.mod_eq_of_lt hb] at hmod

end Text

theorem redemptionCode_inj {a b : Nat} (h : redemptionCode a = redemptionCode b) : a = b := by
  have hlist := congrArg String.toList h
  simp only [redemptionCode, String.toList_append] at hlist
  exact Text.hexPadded_inj (String.toList_inj.1 (List.append_cancel_left hlist))

/-! ## The codes of an issue -/

theorem Order.issueTickets_codes (o : Order) (now : Instant) (first : Nat) :
    (o.issueTickets now first).map (·.code) =
      (List.range (o.issueTickets now first).length).map fun i => redemptionCode (first + i) := by
  unfold Order.issueTickets
  simp only [List.map_map, List.length_map, List.length_zip, List.length_range, Nat.min_self]
  show List.map ((fun i => redemptionCode (first + i)) ∘ Prod.snd) _ = _
  rw [← List.map_map, List.map_snd_zip (by simp)]

theorem Order.length_issueTickets (o : Order) (now : Instant) (first : Nat) :
    (o.issueTickets now first).length =
      (o.lines.map fun l => l.quantity.toNat).foldl (· + ·) 0 := by
  simp [Order.issueTickets, List.length_flatMap, ← List.sum_eq_foldl]

namespace Store

theorem ticketRow_code {t : Ticket} {r : TicketRow} (h : ticketRow t = .ok r) :
    r.code = t.code := by
  unfold ticketRow at h
  cases hp : storeAmount t.pricePaid with
  | error => simp [hp, bind, Except.bind] at h
  | ok price =>
    simp only [hp, bind, Except.bind, pure, Except.pure, Except.ok.injEq] at h
    subst h
    rfl

theorem ticketRows_codes {ts : List Ticket} {rows : List TicketRow}
    (h : ts.mapM ticketRow = .ok rows) : rows.map (·.code) = ts.map (·.code) :=
  (map_eq_of_forall₂ (forall₂_of_mapM_ok h) fun _ _ _ hr => (ticketRow_code hr).symm).symm

end Store

/-! ## Lists without repeats -/

theorem length_eraseDups_le {α : Type} [BEq α] [LawfulBEq α] :
    ∀ l : List α, l.eraseDups.length ≤ l.length
  | [] => le_refl _
  | a :: as => by
    rw [List.eraseDups_cons, List.length_cons, List.length_cons]
    have hrest := length_eraseDups_le (as.filter fun b => !b == a)
    have hfilter := List.length_filter_le (fun b => !b == a) as
    omega
termination_by l => l.length
decreasing_by
  simp only [List.length_cons]
  exact Nat.lt_succ_of_le (List.length_filter_le _ _)

theorem nodup_of_length_eraseDups {α : Type} [BEq α] [LawfulBEq α] :
    ∀ l : List α, l.eraseDups.length = l.length → l.Nodup
  | [] => fun _ => List.nodup_nil
  | a :: as => fun h => by
    rw [List.eraseDups_cons, List.length_cons, List.length_cons] at h
    have hrest := length_eraseDups_le (as.filter fun b => !b == a)
    have hfilter := List.length_filter_le (fun b => !b == a) as
    -- nothing was erased after the head, so no later member equals it
    have hall := List.length_filter_eq_length_iff.1 (show (as.filter fun b => !b == a).length =
      as.length by omega)
    rw [List.filter_eq_self.2 hall] at h
    refine List.nodup_cons.2 ⟨fun ha => by simpa using hall a ha, ?_⟩
    exact nodup_of_length_eraseDups as (by omega)

theorem eraseDups_of_nodup {α : Type} [BEq α] [LawfulBEq α] :
    ∀ {l : List α}, l.Nodup → l.eraseDups = l
  | [], _ => rfl
  | a :: as, h => by
    obtain ⟨hnot, hrest⟩ := List.nodup_cons.1 h
    have hkeep : as.filter (fun b => !b == a) = as := List.filter_eq_self.2 fun b hb => by
      have hne : b ≠ a := fun hba => hnot (hba ▸ hb)
      simpa using hne
    rw [List.eraseDups_cons, hkeep, eraseDups_of_nodup hrest]

/-! ## What the store's checks keep -/

namespace Store

/-- Every integer a stored order carries fits a stored integer: its buyer and the integers of
its lines. -/
def OrderRow.Fits (o : OrderRow) : Prop :=
  fitsInteger o.userId = true ∧ ∀ l ∈ o.lines, ∀ n ∈ l.integers, fitsInteger n = true

/-- What the store's own checks keep true of what it holds: every order's integers fit a stored
integer, and no two tickets share a code. -/
structure Tables.Checked (st : Tables) : Prop where
  orders : ∀ o ∈ st.orders, o.Fits
  codes : (st.tickets.map (·.code)).Nodup

namespace Tables

variable {st st' : Tables}

theorem Fresh.checked (h : st.Fresh) : st.Checked :=
  ⟨by simp [h.no_orders], by simp [h.no_tickets]⟩

theorem Checked.of_same (hc : st.Checked) (horders : st'.orders = st.orders)
    (htickets : st'.tickets = st.tickets) : st'.Checked :=
  ⟨horders ▸ hc.orders, htickets ▸ hc.codes⟩

theorem Checked.restock (hc : st.Checked) (h : Restock st st') : st'.Checked :=
  hc.of_same h.orders h.tickets

theorem insertOrder_fits {r : OrderRow} (h : st.insertOrder r = .ok st') : r.Fits := by
  obtain ⟨huser, h⟩ := bindIntegers_bind_ok h
  obtain ⟨-, h⟩ := require_bind_ok h
  obtain ⟨hlines, -⟩ := bindIntegers_bind_ok h
  simp only [List.all_cons, List.all_nil, Bool.and_true] at huser
  exact ⟨huser, fun l hl n hn => List.all_eq_true.1 hlines n (List.mem_flatMap.2 ⟨l, hl, hn⟩)⟩

theorem insertTickets_codes {rs : List TicketRow} (h : st.insertTickets rs = .ok st') :
    (st'.tickets.map (·.code)).Nodup := by
  obtain ⟨-, h⟩ := bindIntegers_bind_ok h
  obtain ⟨hdistinct, h⟩ := require_bind_ok h
  cases h
  simp only [beq_iff_eq] at hdistinct
  simpa [List.map_append] using nodup_of_length_eraseDups _ hdistinct

theorem Checked.settleByReference (hc : st.Checked) {reference : String} {target : PaymentStatus}
    {ref : OrderRef} (h : st.settleByReference reference target = (st', some ref)) :
    st'.Checked := by
  obtain ⟨rfl, -⟩ := settleByReference_some h
  exact hc.of_same rfl rfl

theorem Checked.settleOf (hc : st.Checked) {ref : OrderRef} {target : PaymentStatus}
    (h : st.settleOf ref target = (st', true)) : st'.Checked := by
  obtain ⟨rfl, -⟩ := settleOf_true h
  exact hc.of_same rfl rfl

/-- An order move changes statuses and times only, so every order still fits. -/
theorem Checked.moveOrder (hc : st.Checked) {ref : OrderRef} {target : OrderStatus}
    {now : Instant} (h : st.moveOrder ref target now = (st', true)) : st'.Checked := by
  obtain ⟨rfl, -⟩ := moveOrder_true h
  refine ⟨fun x hx => ?_, hc.codes⟩
  obtain ⟨o, ho, rfl⟩ := List.mem_map.1 hx
  split
  · exact hc.orders o ho
  · exact hc.orders o ho

end Tables

end Store

open Tables in
/-- Every commit keeps what the store's checks give. -/
theorem Commit.checked {st st' : Tables} (hc : st.Checked) (h : Commit st st') : st'.Checked := by
  cases h with
  | place _ hreserve _ _ horder _ _ hpay =>
    have hc₁ := hc.restock hreserve.restock
    have hfits := insertOrder_fits horder
    obtain ⟨rfl, -⟩ := insertOrder_ok horder
    obtain ⟨rfl, -⟩ := insertPayment_ok hpay
    refine ⟨fun o ho => ?_, hc₁.codes⟩
    rcases List.mem_append.1 ho with ho | ho
    · exact hc₁.orders o ho
    · rw [List.mem_singleton.1 ho]
      exact hfits
  | complete hpay _ _ _ horder hseats _ hissue =>
    have hc₃ := ((hc.settleByReference hpay).moveOrder horder).restock
      (markSeatsSold_restock hseats)
    have hcodes := insertTickets_codes hissue
    obtain ⟨rfl⟩ := insertTickets_ok hissue
    exact ⟨hc₃.orders, hcodes⟩
  | fail hpay _ _ horder hrelease =>
    exact ((hc.settleByReference hpay).moveOrder horder).restock hrelease.restock
  | cancel _ _ _ hpay horder hrelease =>
    exact ((hc.settleOf hpay).moveOrder horder).restock hrelease.restock
  | expire hpay horder hrelease =>
    have hc₂ := (hc.settleOf hpay).moveOrder horder
    rcases hrelease with ⟨-, rfl⟩ | ⟨row, order, -, -, hrelease⟩
    · exact hc₂
    · exact hc₂.restock hrelease.restock
  | releaseLocks now => exact hc.restock (releaseExpiredLocks_restock now)

/-- Along every run from a fresh store, every order's integers fit a stored integer and no two
tickets share a code. -/
theorem Reachable.checked {s₀ s : Session} (h0 : s₀.store.Fresh) (h : Reachable s₀ s) :
    s.store.Checked :=
  Commit.chain_invariant (fun hc hcommit => hcommit.checked hc) h.commits h0.checked

/-! ## The counter stays ahead of the store -/

/-- Every stored ticket carries a code the session has already drawn. -/
def Session.CodesIssued (s : Session) : Prop :=
  ∀ t ∈ s.store.tickets, ∃ k, k ≤ s.codes ∧ t.code = redemptionCode k

/-- From a session to a later one: the counter did not go back, and every ticket of the later
store was stored already or carries a code drawn in between. -/
def Session.Draws (s s' : Session) : Prop :=
  s.codes ≤ s'.codes ∧ ∀ t ∈ s'.store.tickets, t ∈ s.store.tickets ∨
    ∃ k, s.codes < k ∧ k ≤ s'.codes ∧ t.code = redemptionCode k

namespace Session

variable {s s₁ s₂ : Session}

theorem Draws.refl (s : Session) : s.Draws s := ⟨le_refl _, fun _ ht => .inl ht⟩

theorem Draws.trans (h₁ : s.Draws s₁) (h₂ : s₁.Draws s₂) : s.Draws s₂ := by
  refine ⟨h₁.1.trans h₂.1, fun t ht => ?_⟩
  rcases h₂.2 t ht with ht₁ | ⟨k, hlo, hhi, hk⟩
  · rcases h₁.2 t ht₁ with ht₀ | ⟨k, hlo', hhi', hk⟩
    · exact .inl ht₀
    · exact .inr ⟨k, hlo', hhi'.trans h₂.1, hk⟩
  · exact .inr ⟨k, h₁.1.trans_lt hlo, hhi, hk⟩

theorem Draws.of_tickets (hcodes : s.codes ≤ s₁.codes)
    (htickets : s₁.store.tickets = s.store.tickets) : s.Draws s₁ :=
  ⟨hcodes, fun _ ht => .inl (htickets ▸ ht)⟩

theorem Draws.restore (h : s.Draws s₁) : s.Draws { s₁ with store := s.store } :=
  ⟨h.1, fun _ ht => .inl ht⟩

theorem CodesIssued.draws (hs : s.CodesIssued) (h : s.Draws s₁) : s₁.CodesIssued := by
  intro t ht
  rcases h.2 t ht with ht₀ | ⟨k, -, hk, hcode⟩
  · obtain ⟨k, hk, hcode⟩ := hs t ht₀
    exact ⟨k, hk.trans h.1, hcode⟩
  · exact ⟨k, hk, hcode⟩

end Session

namespace Service

variable {α β : Type}

/-- Every run of the call, returning or failing, draws codes forward only and stores only
tickets with codes it drew. -/
def DrawsCodes (m : Service α) : Prop := ∀ s : Session, s.Draws (callSession (m s))

theorem drawsCodes_bind {x : Service α} {f : α → Service β} (hx : DrawsCodes x)
    (hf : ∀ a, DrawsCodes (f a)) : DrawsCodes (x >>= f) := by
  intro s
  rw [callSession_bind]
  have h := hx s
  cases hr : x s with
  | ok a s₁ =>
    rw [hr] at h
    exact h.trans (hf a s₁)
  | error e s₁ =>
    rw [hr] at h
    exact h

theorem drawsCodes_of_same {m : Service α} (h : ∀ s, callSession (m s) = s) : DrawsCodes m :=
  fun s => by
    rw [h s]
    exact .refl s

theorem drawsCodes_pure (a : α) : DrawsCodes (pure a : Service α) := fun s => .refl s

theorem drawsCodes_fail (e : Failure) : DrawsCodes (fail e : Service α) := fun s => .refl s

theorem drawsCodes_lift (r : Except Failure α) : DrawsCodes (lift r) := by
  cases r <;> exact .refl

theorem drawsCodes_record (m : Metric) : DrawsCodes (record m) :=
  fun _ => .of_tickets (le_refl _) rfl

theorem drawsCodes_now : DrawsCodes Service.now :=
  drawsCodes_of_same fun s => by
    simp only [Service.now, bind, EStateM.bind, get, getThe, MonadStateOf.get, EStateM.get]
    split <;> rfl

theorem drawsCodes_loadOrder? (ref : OrderRef) : DrawsCodes (loadOrder? ref) :=
  drawsCodes_of_same fun s => by
    rw [loadOrder?_run]
    split
    · split <;> rfl
    · rfl

theorem drawsCodes_map {m : Service α} {f : α → β} (hm : DrawsCodes m) :
    DrawsCodes (f <$> m) := by
  intro s
  have h := hm s
  cases hr : m s <;> simp_all [Functor.map, EStateM.map, callSession]

theorem drawsCodes_mapM {f : α → Service β} (hf : ∀ a, DrawsCodes (f a)) (l : List α) :
    DrawsCodes (l.mapM f) := by
  induction l with
  | nil => exact drawsCodes_pure []
  | cons a rest ih =>
    rw [List.mapM_cons]
    exact drawsCodes_bind (hf a) fun _ => drawsCodes_bind ih fun _ => drawsCodes_pure _

theorem drawsCodes_update {f : Tables → Tables × α} (hf : ∀ st, (f st).1.tickets = st.tickets) :
    DrawsCodes (update f) :=
  fun s => .of_tickets (le_refl _) (hf s.store)

theorem drawsCodes_write {f : Tables → Except Failure Tables}
    (hf : ∀ st st', f st = .ok st' → st'.tickets = st.tickets) : DrawsCodes (write f) := by
  intro s
  rw [write_run]
  split
  · exact .of_tickets (le_refl _) (hf _ _ ‹_›)
  · exact .refl s

theorem drawsCodes_change {f : Tables → Except Failure (Tables × α)}
    (hf : ∀ st st' a, f st = .ok (st', a) → st'.tickets = st.tickets) : DrawsCodes (change f) := by
  intro s
  rw [change_run]
  split
  · exact .of_tickets (le_refl _) (hf _ _ _ ‹_›)
  · exact .refl s

theorem drawsCodes_unitOfWork {w : Service (α × Bool)} (hw : DrawsCodes w) :
    DrawsCodes (unitOfWork w) := by
  intro s
  have h := hw s
  unfold unitOfWork
  cases hr : w s with
  | ok r s' =>
    rw [hr] at h
    obtain ⟨a, committed⟩ := r
    cases committed
    · exact h.restore
    · exact h
  | error e s' =>
    rw [hr] at h
    exact h.restore

theorem drawsCodes_atomically {w : Service α} (hw : DrawsCodes w) : DrawsCodes (atomically w) := by
  intro s
  have h := hw s
  unfold atomically
  cases hr : w s with
  | ok a s' =>
    rw [hr] at h
    exact h
  | error e s' =>
    rw [hr] at h
    exact h.restore

theorem drawsCodes_attempt {m : Service α} (hm : DrawsCodes m) : DrawsCodes (attempt m) := by
  intro s
  have h := hm s
  unfold attempt
  cases hr : m s with
  | ok a s' =>
    rw [hr] at h
    exact h
  | error e s' =>
    rw [hr] at h
    exact h

theorem drawsCodes_fail_bind (e : Failure) (k : α → Service β) : DrawsCodes (fail e >>= k) :=
  fun s => .refl s

theorem drawsCodes_modify {f : Session → Session}
    (h : ∀ s, (f s).store = s.store ∧ (f s).codes = s.codes) :
    DrawsCodes (modify f : Service Unit) :=
  fun s => .of_tickets (h s).2.ge (congrArg (·.tickets) (h s).1)

theorem drawsCodes_get : DrawsCodes (get : Service Session) := fun s => .refl s

theorem drawsCodes_store : DrawsCodes store := fun s => .refl s

theorem drawsCodes_drawTokens (n : Nat) : DrawsCodes (drawTokens n) :=
  fun _ => .of_tickets (le_refl _) rfl

theorem drawsCodes_store_bind {f : Tables → Service α}
    (hf : ∀ s : Session, s.Draws (callSession (f s.store s))) : DrawsCodes (store >>= f) :=
  hf

theorem callSession_write_bind (f : Tables → Except Failure Tables) (g : Unit → Service β)
    (s : Session) :
    callSession ((write f >>= g) s) = match f s.store with
      | .ok st => callSession (g () { s with store := st })
      | .error _ => s := by
  rw [callSession_bind, write_run]
  cases f s.store <;> rfl

/-- Drawing `n` codes and storing the tickets of an issue numbered from the first of them
stores only codes drawn. -/
theorem drawsCodes_issue (order : Order) (now : Instant) (n : Nat)
    (hn : n = (order.lines.map fun l => l.quantity.toNat).foldl (· + ·) 0)
    {k : Nat → Service β} (hk : ∀ first, DrawsCodes (k first)) :
    DrawsCodes (takeCodes n >>= fun first =>
      write (fun st => do st.insertTickets (← (order.issueTickets now first).mapM ticketRow)) >>=
        fun _ => k first) := by
  intro s
  rw [bind_takeCodes, callSession_write_bind]
  split
  · rename_i st hwrite
    obtain ⟨rows, hrows, hins⟩ := exceptBind_ok hwrite
    obtain rfl := Tables.insertTickets_ok hins
    refine Session.Draws.trans ⟨Nat.le_add_right _ _, fun t ht => ?_⟩ (hk _ _)
    rcases List.mem_append.1 ht with ht | ht
    · exact .inl ht
    · -- a stored row of the issue: its code is one of the `n` just drawn
      have hcode : t.code ∈ rows.map (·.code) := List.mem_map_of_mem ht
      rw [ticketRows_codes hrows, Order.issueTickets_codes, List.mem_map] at hcode
      obtain ⟨i, hi, hcode⟩ := hcode
      rw [List.mem_range, Order.length_issueTickets, ← hn] at hi
      exact .inr ⟨s.codes + 1 + i, by omega, show s.codes + 1 + i ≤ s.codes + n by omega,
        hcode.symm⟩
  · exact .of_tickets (Nat.le_add_right _ _) rfl

end Service

namespace Store.Tables

theorem settleByReference_tickets (st : Tables) (reference : String) (target : PaymentStatus) :
    (st.settleByReference reference target).1.tickets = st.tickets := by
  dsimp only [settleByReference]
  split <;> rfl

theorem settleOf_tickets (st : Tables) (ref : OrderRef) (target : PaymentStatus) :
    (st.settleOf ref target).1.tickets = st.tickets := by
  dsimp only [settleOf]
  split <;> rfl

theorem moveOrder_tickets (st : Tables) (ref : OrderRef) (target : OrderStatus) (now : Instant) :
    (st.moveOrder ref target now).1.tickets = st.tickets := by
  dsimp only [moveOrder]
  split <;> rfl

end Store.Tables

namespace Service

open Tables

/-! ### Every checkout call draws codes forward -/

theorem recordNotPending_drawsCodes (intent : String) : DrawsCodes (recordNotPending intent) := by
  unfold recordNotPending
  refine drawsCodes_bind drawsCodes_store fun st => ?_
  split
  · exact drawsCodes_bind (drawsCodes_lift _) fun _ => drawsCodes_record _
  · exact drawsCodes_record _

theorem releaseInventory_drawsCodes (o : Order) : DrawsCodes (releaseInventory o) := by
  unfold releaseInventory
  generalize o.lines = lines
  induction lines with
  | nil => exact drawsCodes_pure ()
  | cons l rest ih =>
    refine drawsCodes_bind ?_ fun _ => ih
    dsimp only
    split
    · exact drawsCodes_write fun _ _ h => (release_restock h).tickets
    · rename_i seat _
      refine drawsCodes_store_bind fun s => ?_
      cases hu : s.store.unlockSeat l.eventId seat (some o.ref) with
      | ok st => exact .of_tickets (le_refl _) (unlockSeat_restock hu).tickets
      | error f => cases f <;> exact .refl s

theorem finalizePayment_drawsCodes (intent : String) : DrawsCodes (finalizePayment intent) := by
  unfold finalizePayment
  refine drawsCodes_bind drawsCodes_now fun now => drawsCodes_unitOfWork ?_
  refine drawsCodes_bind (drawsCodes_update fun st => settleByReference_tickets st _ _)
    fun found => ?_
  cases found with
  | none => exact drawsCodes_bind (recordNotPending_drawsCodes intent) fun _ => drawsCodes_pure _
  | some ref =>
    refine drawsCodes_bind (drawsCodes_loadOrder? ref) fun found => ?_
    cases found with
    | none => exact drawsCodes_fail _
    | some order =>
      simp only
      split
      · exact drawsCodes_fail_bind _ _
      refine drawsCodes_bind (drawsCodes_lift _) fun order' => ?_
      refine drawsCodes_bind (drawsCodes_update fun st => moveOrder_tickets st _ _ _) fun _ => ?_
      split
      · exact drawsCodes_fail_bind _ _
      refine drawsCodes_bind
        (drawsCodes_change fun _ _ _ h => (markSeatsSold_restock h).tickets) fun _ => ?_
      split
      · exact drawsCodes_bind (drawsCodes_record _) fun _ => drawsCodes_fail _
      exact drawsCodes_issue order' now _ rfl fun _ =>
        drawsCodes_bind (drawsCodes_record _) fun _ => drawsCodes_pure _

theorem failPayment_drawsCodes (intent : String) : DrawsCodes (failPayment intent) := by
  unfold failPayment
  refine drawsCodes_bind drawsCodes_now fun now => drawsCodes_unitOfWork ?_
  refine drawsCodes_bind (drawsCodes_update fun st => settleByReference_tickets st _ _)
    fun found => ?_
  cases found with
  | none => exact drawsCodes_bind (drawsCodes_record _) fun _ => drawsCodes_pure _
  | some ref =>
    refine drawsCodes_bind (drawsCodes_loadOrder? ref) fun found => ?_
    cases found with
    | none => exact drawsCodes_fail _
    | some order =>
      simp only
      refine drawsCodes_bind (drawsCodes_update fun st => moveOrder_tickets st _ _ _) fun _ => ?_
      split
      · exact drawsCodes_fail_bind _ _
      exact drawsCodes_bind (releaseInventory_drawsCodes order) fun _ =>
        drawsCodes_bind (drawsCodes_record _) fun _ =>
          drawsCodes_bind (drawsCodes_lift _) fun _ => drawsCodes_pure _

theorem cancelOrder_drawsCodes (caller : Principal) (ref : OrderRef) :
    DrawsCodes (cancelOrder caller ref) := by
  unfold cancelOrder
  refine drawsCodes_bind drawsCodes_now fun now => drawsCodes_unitOfWork ?_
  refine drawsCodes_bind (drawsCodes_loadOrder? ref) fun found => ?_
  cases found with
  | none => exact drawsCodes_fail _
  | some order =>
    simp only
    split
    · exact drawsCodes_fail_bind _ _
    refine drawsCodes_bind (drawsCodes_lift _) fun _ => ?_
    refine drawsCodes_bind (drawsCodes_update fun st => settleOf_tickets st _ _) fun _ => ?_
    split
    · exact drawsCodes_fail_bind _ _
    refine drawsCodes_bind (drawsCodes_update fun st => moveOrder_tickets st _ _ _) fun _ => ?_
    split
    · exact drawsCodes_fail_bind _ _
    exact drawsCodes_bind (releaseInventory_drawsCodes order) fun _ => drawsCodes_pure _

theorem orderDetail_drawsCodes (caller : Principal) (ref : OrderRef) :
    DrawsCodes (orderDetail caller ref) := by
  unfold orderDetail
  refine drawsCodes_bind (drawsCodes_loadOrder? ref) fun found => ?_
  cases found with
  | none => exact drawsCodes_fail _
  | some order =>
    simp only
    split
    · exact drawsCodes_fail_bind _ _
    refine drawsCodes_bind drawsCodes_store fun st => ?_
    have htickets := drawsCodes_mapM (fun row => drawsCodes_lift row.toTicket) (st.ticketsOf ref)
    split
    · exact drawsCodes_bind (drawsCodes_map (drawsCodes_lift _)) fun _ =>
        drawsCodes_bind htickets fun _ => drawsCodes_pure _
    · exact drawsCodes_bind (drawsCodes_pure _) fun _ =>
        drawsCodes_bind htickets fun _ => drawsCodes_pure _

theorem expireOrder_drawsCodes (ref : OrderRef) (now : Instant) :
    DrawsCodes (expireOrder ref now) := by
  unfold expireOrder
  refine drawsCodes_unitOfWork ?_
  refine drawsCodes_bind (drawsCodes_update fun st => settleOf_tickets st _ _) fun _ => ?_
  split
  · exact drawsCodes_pure _
  refine drawsCodes_bind (drawsCodes_update fun st => moveOrder_tickets st _ _ _) fun _ => ?_
  split
  · exact drawsCodes_pure _
  refine drawsCodes_bind (drawsCodes_loadOrder? ref) fun found => ?_
  cases found with
  | none => exact drawsCodes_pure _
  | some order => exact drawsCodes_bind (releaseInventory_drawsCodes order) fun _ => drawsCodes_pure _

theorem expireOrders_drawsCodes (now : Instant) (refs : List OrderRef) :
    DrawsCodes (expireOrders now refs) := by
  induction refs with
  | nil => exact drawsCodes_pure 0
  | cons ref rest ih =>
    exact drawsCodes_bind (drawsCodes_attempt (expireOrder_drawsCodes ref now)) fun _ =>
      drawsCodes_bind ih fun _ => drawsCodes_pure _

theorem sweep_drawsCodes (now : Instant) (batchSize : Int) : DrawsCodes (sweep now batchSize) :=
  drawsCodes_bind drawsCodes_store fun _ => drawsCodes_bind (drawsCodes_lift _) fun due =>
    drawsCodes_bind (expireOrders_drawsCodes now due) fun _ =>
      drawsCodes_bind (drawsCodes_record _) fun _ =>
        drawsCodes_bind (drawsCodes_update fun _ => (releaseExpiredLocks_restock now).tickets)
          fun _ => drawsCodes_bind (drawsCodes_record _) fun _ => drawsCodes_pure _

theorem reserveLine_drawsCodes (ref : OrderRef) (expiresAt : Instant) (line : CartLine) :
    DrawsCodes (reserveLine ref expiresAt line) := by
  unfold reserveLine
  refine drawsCodes_bind drawsCodes_store fun _ =>
    drawsCodes_bind (drawsCodes_lift _) fun found => ?_
  cases found with
  | none => exact drawsCodes_fail _
  | some offer =>
    simp only
    split
    · exact drawsCodes_bind (drawsCodes_write fun _ _ h => (lockSeat_restock h).tickets) fun _ =>
        drawsCodes_pure _
    · exact drawsCodes_bind (drawsCodes_write fun _ _ h => (reserve_restock h).tickets) fun _ =>
        drawsCodes_pure _

theorem openIntent_drawsCodes (g : Gateway.Kind) (amount : Int) (currency : String) :
    DrawsCodes (g.openIntent amount currency) := by
  cases g with
  | «local» => exact drawsCodes_bind (drawsCodes_drawTokens 2) fun _ => drawsCodes_pure _
  | processor script =>
    exact drawsCodes_bind (drawsCodes_modify fun _ => ⟨rfl, rfl⟩) fun _ => drawsCodes_lift _

theorem checkout_drawsCodes (rules : CheckoutRules) (buyer : Principal) (lines : List CartLine) :
    DrawsCodes (checkout rules buyer lines) := by
  unfold checkout
  refine drawsCodes_bind drawsCodes_now fun now => ?_
  split
  · refine drawsCodes_bind (drawsCodes_pure _) fun expiresAt => drawsCodes_atomically ?_
    refine drawsCodes_bind drawsCodes_get fun s => ?_
    refine drawsCodes_bind (drawsCodes_mapM (reserveLine_drawsCodes _ expiresAt) lines)
      fun _ => ?_
    refine drawsCodes_bind (drawsCodes_lift _) fun order => ?_
    refine drawsCodes_bind (drawsCodes_write fun st st' h => ?_) fun _ => ?_
    · obtain ⟨row, -, horder⟩ := exceptBind_ok h
      rw [(insertOrder_ok horder).1]
    refine drawsCodes_bind (drawsCodes_lift _) fun amount => ?_
    refine drawsCodes_bind (openIntent_drawsCodes _ _ _) fun intent => ?_
    refine drawsCodes_bind (drawsCodes_lift _) fun _ => ?_
    refine drawsCodes_bind (drawsCodes_lift _) fun _ => ?_
    refine drawsCodes_bind (drawsCodes_write fun st st' h => ?_) fun _ => ?_
    · rw [(insertPayment_ok h).1]
    exact drawsCodes_bind (drawsCodes_modify fun _ => ⟨rfl, rfl⟩) fun _ =>
      drawsCodes_bind (drawsCodes_modify fun _ => ⟨rfl, rfl⟩) fun _ => drawsCodes_pure _
  · exact drawsCodes_fail_bind _ _

theorem placeOrder_drawsCodes (rules : CheckoutRules) (buyer : Principal)
    (lines : List CartLine) : DrawsCodes (placeOrder rules buyer lines) := by
  unfold placeOrder
  refine drawsCodes_bind (drawsCodes_attempt ?_) fun result => ?_
  · exact drawsCodes_bind (drawsCodes_lift _) fun _ => checkout_drawsCodes rules buyer lines
  · cases result with
    | ok p => exact drawsCodes_bind (drawsCodes_record _) fun _ => drawsCodes_pure _
    | error f =>
      simp only
      split
      · exact drawsCodes_bind (drawsCodes_record _) fun _ =>
          drawsCodes_bind (drawsCodes_record _) fun _ => drawsCodes_fail _
      · exact drawsCodes_bind (drawsCodes_record _) fun _ => drawsCodes_fail _

end Service

open Service

theorem Command.drawsCodes_run {c : Command} (hc : c.IsCheckoutCall) : DrawsCodes c.run := by
  cases c
  case placeOrder rules caller lines =>
    exact drawsCodes_bind (drawsCodes_lift _) fun _ =>
      drawsCodes_bind (placeOrder_drawsCodes rules caller lines) fun _ => drawsCodes_lift _
  case confirmPayment intent =>
    exact drawsCodes_bind (finalizePayment_drawsCodes intent) fun r => by
      cases r <;> exact drawsCodes_pure _
  case failPayment intent =>
    exact drawsCodes_bind (failPayment_drawsCodes intent) fun r => by
      cases r
      · exact drawsCodes_pure _
      · exact drawsCodes_lift _
  case cancelOrder caller ref =>
    exact drawsCodes_bind (cancelOrder_drawsCodes caller ref) fun _ => drawsCodes_lift _
  case submitCancel caller ref =>
    exact drawsCodes_bind (cancelOrder_drawsCodes caller ref) fun _ => drawsCodes_lift _
  case viewOrder caller ref =>
    exact drawsCodes_bind (orderDetail_drawsCodes caller ref) fun _ => drawsCodes_lift _
  case submitView caller ref =>
    exact drawsCodes_bind (orderDetail_drawsCodes caller ref) fun _ => drawsCodes_lift _
  case sweep batchSize =>
    exact drawsCodes_bind drawsCodes_now fun now =>
      drawsCodes_bind (sweep_drawsCodes now batchSize) fun _ => drawsCodes_pure _
  case sweepQuietly batchSize =>
    exact drawsCodes_bind drawsCodes_now fun now =>
      drawsCodes_bind (drawsCodes_attempt (sweep_drawsCodes now batchSize)) fun _ =>
        drawsCodes_pure _
  all_goals exact False.elim hc

theorem Session.perform_draws (s : Session) {c : Command} (hc : c.IsCheckoutCall) :
    s.Draws (s.perform c).2 := by
  have h := Command.drawsCodes_run hc { s.hearOf c.refs with metrics := [], requests := [] }
  cases hr : c.run { s.hearOf c.refs with metrics := [], requests := [] } <;>
    simp only [hr, callSession] at h <;> simp only [Session.perform, hr] <;> exact h

/-- Along every run from a fresh store, every stored ticket carries a code the session has
already drawn; with `redemptionCode_inj`, the next ticket issued takes a code no stored
ticket has. -/
theorem Reachable.codesIssued {s₀ s : Session} (h0 : s₀.store.Fresh) (h : Reachable s₀ s) :
    s.CodesIssued := by
  induction h with
  | start => simp [Session.CodesIssued, h0.no_tickets]
  | @step s c now hc _ ih =>
    exact Session.CodesIssued.draws (s := { s with now := now }) ih (Session.perform_draws _ hc)

end TicketCheckout
