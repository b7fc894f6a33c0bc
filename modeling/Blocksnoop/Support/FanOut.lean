import Mathlib.Data.List.Basic

/-!
# Calls to a list of receivers

A loop calls every receiver of a list with the same argument and ends at the
first one that raises.  Receivers behind one that raises miss the call.
-/

namespace Blocksnoop.Support

section

variable {κ σ : Type}

/-- The receivers after the loop, and whether a call has raised. -/
def fanOut (call : κ → σ → σ × Bool) (c : κ) : List σ → List σ × Bool
  | [] => ([], false)
  | receiver :: rest =>
      match call c receiver with
      | (called, true) => (called :: rest, true)
      | (called, false) =>
          let (others, raised) := fanOut call c rest
          (called :: others, raised)

/-- One loop after the other, whether or not they raise. -/
def fanOuts (call : κ → σ → σ × Bool) (calls : List κ) (receivers : List σ) : List σ :=
  calls.foldl (fun receivers c => (fanOut call c receivers).1) receivers

/-- A receiver that gets all the calls. -/
def receiveAll (call : κ → σ → σ × Bool) (calls : List κ) (receiver : σ) : σ :=
  calls.foldl (fun receiver c => (call c receiver).1) receiver

/-- A receiver that gets all the calls raises at none of them. -/
def NeverRaises (call : κ → σ → σ × Bool) : List κ → σ → Prop
  | [], _ => True
  | c :: calls, receiver =>
      (call c receiver).2 = false ∧ NeverRaises call calls (call c receiver).1

variable {call : κ → σ → σ × Bool}

/-! ## One loop -/

theorem fanOut_cons_of_raises {c : κ} {receiver : σ} (rest : List σ)
    (h : (call c receiver).2 = true) :
    fanOut call c (receiver :: rest) = ((call c receiver).1 :: rest, true) := by
  rw [fanOut, show call c receiver = ((call c receiver).1, true) from Prod.ext rfl h]

theorem fanOut_cons_of_returns {c : κ} {receiver : σ} (rest : List σ)
    (h : (call c receiver).2 = false) :
    fanOut call c (receiver :: rest) =
      ((call c receiver).1 :: (fanOut call c rest).1, (fanOut call c rest).2) := by
  rw [fanOut, show call c receiver = ((call c receiver).1, false) from Prod.ext rfl h]

theorem fanOut_raised (c : κ) (receivers : List σ) :
    (fanOut call c receivers).2 = receivers.any fun receiver => (call c receiver).2 := by
  induction receivers with
  | nil => rfl
  | cons receiver rest ih =>
      cases h : (call c receiver).2 with
      | true => simp [fanOut_cons_of_raises rest h, h]
      | false => simp [fanOut_cons_of_returns rest h, h, ih]

/-- Only the last receiver may raise when all of them are to be called. -/
theorem fanOut_eq_map {c : κ} {receivers : List σ}
    (h : ∀ receiver ∈ receivers.dropLast, (call c receiver).2 = false) :
    (fanOut call c receivers).1 = receivers.map fun receiver => (call c receiver).1 := by
  induction receivers with
  | nil => rfl
  | cons receiver rest ih =>
      cases hreceiver : (call c receiver).2 with
      | false =>
          rw [fanOut_cons_of_returns rest hreceiver, List.map_cons]
          refine congrArg _ (ih ?_)
          intro other hother
          cases rest with
          | nil => cases hother
          | cons next rest => exact h other (List.mem_cons_of_mem _ hother)
      | true =>
          cases rest with
          | nil => rw [fanOut_cons_of_raises [] hreceiver, List.map_cons, List.map_nil]
          | cons next rest =>
              have hreturns := h receiver (by simp)
              rw [hreceiver] at hreturns
              cases hreturns

/-- A receiver that raises keeps the call from the last one. -/
theorem getLast?_fanOut_of_raises {c : κ} {receivers : List σ}
    (h : ∃ receiver ∈ receivers.dropLast, (call c receiver).2 = true) :
    (fanOut call c receivers).1.getLast? = receivers.getLast? := by
  induction receivers with
  | nil =>
      obtain ⟨receiver, hreceiver, -⟩ := h
      cases hreceiver
  | cons receiver rest ih =>
      cases rest with
      | nil =>
          obtain ⟨other, hother, -⟩ := h
          cases hother
      | cons next rest =>
          cases hreceiver : (call c receiver).2 with
          | true =>
              rw [fanOut_cons_of_raises (next :: rest) hreceiver]
              simp
          | false =>
              obtain ⟨other, hother, hraises⟩ := h
              rcases List.mem_cons.mp hother with rfl | hother
              · rw [hreceiver] at hraises
                cases hraises
              · have hlast := ih ⟨other, hother, hraises⟩
                rw [fanOut_cons_of_returns (next :: rest) hreceiver]
                rw [List.getLast?_cons_cons, List.getLast?_cons, hlast, List.getLast?_cons,
                  Option.getD_some]

theorem length_fanOut (c : κ) (receivers : List σ) :
    (fanOut call c receivers).1.length = receivers.length := by
  induction receivers with
  | nil => rfl
  | cons receiver rest ih =>
      cases h : (call c receiver).2 with
      | true => simp [fanOut_cons_of_raises rest h]
      | false => simp [fanOut_cons_of_returns rest h, ih]

/-! ## Many loops -/

@[simp] theorem fanOuts_nil (receivers : List σ) : fanOuts call [] receivers = receivers := rfl

@[simp] theorem fanOuts_cons (c : κ) (calls : List κ) (receivers : List σ) :
    fanOuts call (c :: calls) receivers =
      fanOuts call calls (fanOut call c receivers).1 := rfl

theorem fanOuts_append (calls more : List κ) (receivers : List σ) :
    fanOuts call (calls ++ more) receivers =
      fanOuts call more (fanOuts call calls receivers) :=
  List.foldl_append

theorem length_fanOuts (calls : List κ) (receivers : List σ) :
    (fanOuts call calls receivers).length = receivers.length := by
  induction calls generalizing receivers with
  | nil => rfl
  | cons c calls ih => rw [fanOuts_cons, ih, length_fanOut]

theorem neverRaises_append {calls more : List κ} {receiver : σ} :
    NeverRaises call (calls ++ more) receiver ↔
      NeverRaises call calls receiver ∧
        NeverRaises call more (receiveAll call calls receiver) := by
  induction calls generalizing receiver with
  | nil => simp [NeverRaises, receiveAll]
  | cons c calls ih =>
      rw [List.cons_append, NeverRaises, NeverRaises, ih, and_assoc]
      rfl

/-- When only the last receiver raises, every receiver gets every call. -/
theorem fanOuts_eq_map {calls : List κ} {receivers : List σ}
    (h : ∀ receiver ∈ receivers.dropLast, NeverRaises call calls receiver) :
    fanOuts call calls receivers = receivers.map (receiveAll call calls) := by
  induction calls generalizing receivers with
  | nil => exact (List.map_id receivers).symm
  | cons c calls ih =>
      have hfirst := fanOut_eq_map (fun receiver hreceiver => (h receiver hreceiver).1)
      rw [fanOuts_cons, hfirst, ih, List.map_map]
      · rfl
      · intro receiver hreceiver
        rw [← List.map_dropLast] at hreceiver
        obtain ⟨before, hbefore, rfl⟩ := List.mem_map.mp hreceiver
        exact (h before hbefore).2

end

/-! ## What the receivers have got -/

/-- A receiver with the calls it has got. -/
structure Heard (κ σ : Type) where
  receiver : σ
  heard : List κ := []

namespace Heard

variable {κ σ : Type}

def call (call : κ → σ → σ × Bool) (c : κ) (h : Heard κ σ) : Heard κ σ × Bool :=
  ({ receiver := (call c h.receiver).1, heard := h.heard ++ [c] }, (call c h.receiver).2)

variable {call : κ → σ → σ × Bool}

theorem receiveAll_call (calls : List κ) (h : Heard κ σ) :
    receiveAll (Heard.call call) calls h =
      { receiver := receiveAll call calls h.receiver, heard := h.heard ++ calls } := by
  induction calls generalizing h with
  | nil => simp [receiveAll]
  | cons c calls ih =>
      have hstep : receiveAll (Heard.call call) (c :: calls) h =
          receiveAll (Heard.call call) calls (Heard.call call c h).1 := rfl
      rw [hstep, ih]
      simp [Heard.call, receiveAll]

theorem neverRaises_call {calls : List κ} {h : Heard κ σ} :
    NeverRaises (Heard.call call) calls h ↔ NeverRaises call calls h.receiver := by
  induction calls generalizing h with
  | nil => exact Iff.rfl
  | cons c calls ih =>
      rw [NeverRaises, NeverRaises, ih]
      rfl

/-- The number of calls that the last receiver has got. -/
def lastCount (receivers : List (Heard κ σ)) : ℕ :=
  (receivers.getLast?.map fun h => h.heard.length).getD 0

theorem lastCount_eq {receivers : List (Heard κ σ)} {n : ℕ} (hne : receivers ≠ [])
    (h : ∀ receiver ∈ receivers, receiver.heard.length = n) : lastCount receivers = n := by
  rw [lastCount, List.getLast?_eq_some_getLast hne]
  exact h _ (List.getLast_mem hne)

theorem lastCount_fanOut_of_raises {c : κ} {receivers : List (Heard κ σ)}
    (h : ∃ receiver ∈ receivers.dropLast, (Heard.call call c receiver).2 = true) :
    lastCount (fanOut (Heard.call call) c receivers).1 = lastCount receivers := by
  rw [lastCount, getLast?_fanOut_of_raises h, lastCount]

theorem lastCount_fanOut_le (call : κ → σ → σ × Bool) (c : κ) (receivers : List (Heard κ σ)) :
    lastCount (fanOut (Heard.call call) c receivers).1 ≤ lastCount receivers + 1 := by
  by_cases h : ∃ receiver ∈ receivers.dropLast, (Heard.call call c receiver).2 = true
  · rw [lastCount_fanOut_of_raises h]
    exact Nat.le_succ _
  · have hreturns : ∀ receiver ∈ receivers.dropLast,
        (Heard.call call c receiver).2 = false := by
      intro receiver hreceiver
      by_contra hraises
      exact h ⟨receiver, hreceiver, by simpa using hraises⟩
    rw [lastCount, lastCount, fanOut_eq_map hreturns, List.getLast?_map]
    cases receivers.getLast? <;> simp [Heard.call]

theorem lastCount_fanOuts_le (call : κ → σ → σ × Bool) (calls : List κ) (receivers : List (Heard κ σ)) :
    lastCount (fanOuts (Heard.call call) calls receivers) ≤
      lastCount receivers + calls.length := by
  induction calls generalizing receivers with
  | nil => exact Nat.le_refl _
  | cons c calls ih =>
      have hrest := ih (fanOut (Heard.call call) c receivers).1
      have hfirst := lastCount_fanOut_le call c receivers
      rw [fanOuts_cons, List.length_cons]
      omega

/-- The last receiver gets all the calls only if no other one raises. -/
theorem neverRaises_of_lastCount {calls : List κ} {receivers : List (Heard κ σ)}
    (h : lastCount (fanOuts (Heard.call call) calls receivers) =
      lastCount receivers + calls.length) :
    ∀ receiver ∈ receivers.dropLast, NeverRaises (Heard.call call) calls receiver := by
  induction calls generalizing receivers with
  | nil => exact fun _ _ => trivial
  | cons c calls ih =>
      rw [fanOuts_cons, List.length_cons] at h
      have hrest := lastCount_fanOuts_le call calls
        (fanOut (Heard.call call) c receivers).1
      have hreturns : ∀ receiver ∈ receivers.dropLast,
          (Heard.call call c receiver).2 = false := by
        intro receiver hreceiver
        by_contra hraises
        have hmissed : lastCount (fanOut (Heard.call call) c receivers).1 =
            lastCount receivers :=
          lastCount_fanOut_of_raises ⟨receiver, hreceiver, by simpa using hraises⟩
        omega
      have hfirst := lastCount_fanOut_le call c receivers
      have hlater : ∀ receiver ∈ (fanOut (Heard.call call) c receivers).1.dropLast,
          NeverRaises (Heard.call call) calls receiver := ih (by omega)
      rw [fanOut_eq_map hreturns] at hlater
      intro receiver hreceiver
      refine ⟨hreturns receiver hreceiver, hlater _ ?_⟩
      rw [← List.map_dropLast]
      exact List.mem_map_of_mem hreceiver

end Heard

end Blocksnoop.Support
