import Accounts.Interleaving

/-!
# Schedules that are serial runs

A schedule of two-step requests is *serializable* when some serial run of the
same requests, each served whole, leaves the same state and the same outcomes.
The candidate is the order in which the requests complete. For it to do, a
request that is finished has to be *current*: its first step, taken again
now, would leave it in flight as it is. This is what an optimistic store
validates before it commits; here it is a hypothesis about the moves of a
schedule, and `serializable_run` is what follows.

Both steps of a request that is served whole take place in the environment
they have in the schedule: two of the same request, if time goes by between
them.

The configuration of a system does not know which request left what is in
flight. `tracked` runs the schedule with that list beside it, and answers each
move with the request it completes; `order` is the answers of a schedule.
-/

namespace TwoStep

variable {σ ε ι κ ο β : Type} (M : TwoStep σ ε ι κ ο)

/-- **What a move does to the requests in flight**, and the request it
completes, with the environment of its last step. -/
def track (c : Config σ κ ο) (p : List (ε × ι)) :
    Move ε ι → Option ((ε × ι) × ε) × List (ε × ι)
  | .start e i =>
    match (M.first e i c.shared).2 with
    | .inl _ => (none, p ++ [(e, i)])
    | .inr _ => (some ((e, i), e), p)
  | .finish e k => (p[k]?.map (fun i => (i, e)), p.eraseIdx k)

/-- The system, with the requests in flight. -/
def tracked : Process (Config σ κ ο × List (ε × ι)) (Move ε ι) (Option ((ε × ι) × ε)) where
  step m s := ((M.track s.1 s.2 m).1, (M.move s.1 m, (M.track s.1 s.2 m).2))

/-- **The requests of a schedule in the order they complete.** -/
def order (s : Config σ κ ο × List (ε × ι)) (ms : List (Move ε ι)) : List ((ε × ι) × ε) :=
  (M.tracked.trace s ms).filterMap Prod.snd

/-- Requests served whole, one after the other. -/
def serially (out : ο → β) : Process σ ((ε × ι) × ε) β where
  step i d := (out (M.serial i.1.1 i.2 i.1.2 d).1, (M.serial i.1.1 i.2 i.1.2 d).2)

/-- **The request in flight is current**: its first step would leave it so. -/
def Current (d : σ) (i : ε × ι) (l : κ) : Prop :=
  M.first i.1 i.2 d = (d, .inl l)

/-- A move that finishes a request finishes a current one. -/
def FinishesCurrent (s : Config σ κ ο × List (ε × ι)) : Move ε ι → Prop
  | .start _ _ => True
  | .finish _ k => ∀ l i, s.1.flights[k]? = some l → s.2[k]? = some i → M.Current s.1.shared i l

section Lemmas

variable {M} {out : ο → β} {s : Config σ κ ο × List (ε × ι)} {m : Move ε ι} {ms : List (Move ε ι)}

/-- What is current is served whole by its second step. -/
theorem Current.serial_eq {d : σ} {i : ε × ι} {e : ε} {l : κ} (h : M.Current d i l) :
    M.serial i.1 e i.2 d = ((M.second e l d).2, (M.second e l d).1) := by
  have hfirst : M.first i.1 i.2 d = (d, .inl l) := h
  rw [serial, hfirst]

/-- **A move takes no step, or that of the request it completes.** -/
theorem move_serially (hlen : s.1.flights.length = s.2.length)
    (h : M.FinishesCurrent s m)
    (hread : ∀ e i d l, M.first e i s.1.shared = (d, .inl l) → d = s.1.shared) :
    (M.move s.1 m).flights.length = (M.track s.1 s.2 m).2.length ∧
    match (M.track s.1 s.2 m).1 with
    | none => (M.move s.1 m).shared = s.1.shared ∧ (M.move s.1 m).log = s.1.log
    | some i => (M.move s.1 m).shared = ((M.serially out).next s.1.shared i) ∧
        (M.move s.1 m).log.map out
          = s.1.log.map out ++ [(M.serially out).answer s.1.shared i] := by
  obtain ⟨c, p⟩ := s
  cases m with
  | start e i =>
    cases hf : M.first e i c.shared with
    | mk d r =>
      cases r with
      | inl l =>
        rw [move_start_flight hf, track, hf]
        exact ⟨by simp [hlen], hread e i d l hf, rfl⟩
      | inr o =>
        have hs : M.serial e e i c.shared = (o, d) := by rw [serial, hf]
        rw [move_start_done hf, track, hf]
        refine ⟨hlen, ?_, ?_⟩
        · exact (congrArg Prod.snd hs).symm
        · rw [List.map_append, List.map_singleton]
          exact congrArg (fun o => c.log.map out ++ [out o]) (congrArg Prod.fst hs).symm
  | finish e k =>
    cases hk : c.flights[k]? with
    | none =>
      have hp : p[k]? = none := by
        rw [List.getElem?_eq_none_iff] at hk ⊢
        exact hlen ▸ hk
      rw [move_finish_none hk, track, hp]
      refine ⟨?_, rfl, rfl⟩
      rw [List.eraseIdx_of_length_le (List.getElem?_eq_none_iff.mp hp)]
      exact hlen
    | some l =>
      have hlt : k < p.length := by
        rw [← hlen]
        exact (List.getElem?_eq_some_iff.mp hk).1
      have hp : p[k]? = some p[k] := List.getElem?_eq_getElem hlt
      have hs : M.serial p[k].1 e p[k].2 c.shared
          = ((M.second e l c.shared).2, (M.second e l c.shared).1) := (h l p[k] hk hp).serial_eq
      rw [move_finish hk, track, hp]
      refine ⟨?_, (congrArg Prod.snd hs).symm, ?_⟩
      · rw [List.length_eraseIdx_of_lt hlt, List.length_eraseIdx_of_lt (hlen ▸ hlt)]
        exact congrArg (· - 1) hlen
      · rw [List.map_append, List.map_singleton]
        exact congrArg (fun o => c.log.map out ++ [out o]) (congrArg Prod.fst hs).symm

/-- **Serializability.** A schedule that finishes only current requests does
what the serial run does, in which the requests are served whole and in the
order they complete in the schedule. -/
theorem serializable_run (out : ο → β)
    (hread : ∀ e i d d' l, M.first e i d = (d', .inl l) → d' = d)
    (hlen : s.1.flights.length = s.2.length) (h : M.tracked.Every M.FinishesCurrent s ms) :
    (M.tracked.run s ms).1.shared = (M.serially out).run s.1.shared (M.order s ms) ∧
      (M.tracked.run s ms).1.log.map out
        = s.1.log.map out ++ ((M.serially out).trace s.1.shared (M.order s ms)).map Prod.snd := by
  induction ms generalizing s with
  | nil => exact ⟨rfl, (List.append_nil _).symm⟩
  | cons m ms ih =>
    obtain ⟨hm, hms⟩ := h
    obtain ⟨hlen', hstep⟩ := move_serially hlen hm (fun e i d l => hread e i _ d l)
    obtain ⟨hd, hlog⟩ := ih hlen' hms
    have horder : M.order s (m :: ms)
        = (M.track s.1 s.2 m).1.toList ++ M.order (M.tracked.next s m) ms := by
      show List.filterMap Prod.snd ((m, (M.track s.1 s.2 m).1) :: _) = _
      cases hc : (M.track s.1 s.2 m).1 <;> simp [order]
    rw [Process.run_cons, horder]
    cases hc : (M.track s.1 s.2 m).1 with
    | none =>
      rw [hc] at hstep
      rw [Option.toList_none, List.nil_append]
      refine ⟨hd.trans (congrArg (fun d => (M.serially out).run d _) hstep.1), hlog.trans ?_⟩
      show (M.move s.1 m).log.map out ++ ((M.serially out).trace (M.move s.1 m).shared _).map _ = _
      rw [hstep.1, hstep.2]
    | some i =>
      rw [hc] at hstep
      rw [Option.toList_some, List.singleton_append]
      refine ⟨hd.trans (congrArg (fun d => (M.serially out).run d _) hstep.1), hlog.trans ?_⟩
      show (M.move s.1 m).log.map out ++ ((M.serially out).trace (M.move s.1 m).shared _).map _ = _
      rw [hstep.1, hstep.2, List.append_assoc]
      rfl

/-- The schedule runs as it does without the list beside it. -/
theorem tracked_run_fst : (M.tracked.run s ms).1 = M.system.run s.1 ms := by
  induction ms generalizing s with
  | nil => rfl
  | cons m ms ih => exact ih

end Lemmas

end TwoStep
