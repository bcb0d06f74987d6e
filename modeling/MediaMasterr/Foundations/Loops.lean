import Mathlib.Data.List.Basic
import Mathlib.Data.List.Induction
import Mathlib.Data.List.Nodup

/-! # Loops

Rules for the two loops that handlers are made of: a fold over tasks, which
appends to a trace, and a search that runs a step on one item after the other
until the state says that it is done. -/

namespace MediaMasterr.Foundations.Loops

variable {σ τ ε : Type*}

/-! ## Folds -/

/-- What every step keeps, the whole fold keeps. -/
theorem foldl_invariant {P : σ → Prop} {step : σ → τ → σ} {ts : List τ}
    (hstep : ∀ t ∈ ts, ∀ s, P s → P (step s t)) {s : σ} (hs : P s) : P (ts.foldl step s) := by
  induction ts generalizing s with
  | nil => exact hs
  | cons t ts ih =>
    exact ih (fun t ht => hstep t (List.mem_cons_of_mem _ ht))
      (hstep t List.mem_cons_self s hs)

/-- What the step of one item establishes and no step breaks, the fold establishes. -/
theorem foldl_establishes {I P : σ → Prop} {step : σ → τ → σ} {ts : List τ} {t : τ} (ht : t ∈ ts)
    (hI : ∀ t ∈ ts, ∀ s, I s → I (step s t)) (hest : ∀ s, I s → P (step s t))
    (hkeep : ∀ t ∈ ts, ∀ s, I s → P s → P (step s t)) {s : σ} (hs : I s) :
    P (ts.foldl step s) := by
  induction ts generalizing s with
  | nil => simp at ht
  | cons t' ts ih =>
    have hI' := hI t' List.mem_cons_self s hs
    rcases List.mem_cons.mp ht with rfl | ht
    · refine (foldl_invariant (P := fun s => I s ∧ P s) ?_ ⟨hI', hest s hs⟩).2
      exact fun t ht s h => ⟨hI t (List.mem_cons_of_mem _ ht) s h.1,
        hkeep t (List.mem_cons_of_mem _ ht) s h.1 h.2⟩
    · exact ih ht (fun t ht => hI t (List.mem_cons_of_mem _ ht))
        (fun t ht => hkeep t (List.mem_cons_of_mem _ ht)) hI'

/-- A fold whose steps append to a trace appends the pieces in order. -/
theorem foldl_trace {trace : σ → List ε} {step : σ → τ → σ} {piece : τ → List ε}
    (hstep : ∀ s t, trace (step s t) = trace s ++ piece t) (ts : List τ) (s : σ) :
    trace (ts.foldl step s) = trace s ++ ts.flatMap piece := by
  induction ts generalizing s with
  | nil => simp
  | cons t ts ih => rw [List.foldl_cons, ih, hstep, List.flatMap_cons, List.append_assoc]

/-- A fold whose steps count their pieces counts all of them. -/
theorem foldl_count {n : σ → Nat} {step : σ → τ → σ} {p : τ → List ε}
    (hstep : ∀ s t, n (step s t) = n s + (p t).length) (ts : List τ) (s : σ) :
    n (ts.foldl step s) = n s + (ts.flatMap p).length := by
  induction ts generalizing s with
  | nil => simp
  | cons t ts ih =>
    rw [List.foldl_cons, ih, hstep, List.flatMap_cons, List.length_append, Nat.add_assoc]

/-- A fold that counts some of the items. -/
theorem foldl_countIf {n : σ → Nat} {step : σ → τ → σ} {q : τ → Bool}
    (hstep : ∀ s t, n (step s t) = n s + if q t then 1 else 0) (ts : List τ) (s : σ) :
    n (ts.foldl step s) = n s + (ts.filter q).length := by
  induction ts generalizing s with
  | nil => simp
  | cons t ts ih =>
    rw [List.foldl_cons, ih, hstep, List.filter_cons]
    split_ifs
    · rw [List.length_cons]
      omega
    · omega

/-- The same where a piece depends on the state, if no step changes the pieces of the items
after it. -/
theorem foldl_trace_of_independent {I : σ → Prop} {trace : σ → List ε} {step : σ → τ → σ}
    {piece : σ → τ → List ε} {ts : List τ} (hI : ∀ t ∈ ts, ∀ s, I s → I (step s t))
    (hstep : ∀ s t, trace (step s t) = trace s ++ piece s t)
    (hindependent : ts.Pairwise fun t t' => ∀ s, I s → piece (step s t) t' = piece s t')
    {s : σ} (hs : I s) : trace (ts.foldl step s) = trace s ++ ts.flatMap (piece s) := by
  induction ts generalizing s with
  | nil => simp
  | cons t ts ih =>
    obtain ⟨hhead, htail⟩ := List.pairwise_cons.mp hindependent
    have hpieces : ts.flatMap (piece (step s t)) = ts.flatMap (piece s) :=
      List.flatMap_congr fun t' ht' => hhead t' ht' s hs
    rw [List.foldl_cons, ih (fun t ht => hI t (List.mem_cons_of_mem _ ht)) htail
      (hI t List.mem_cons_self s hs), hstep, hpieces, List.flatMap_cons, List.append_assoc]

/-- Where a step keeps an observation exactly under a condition on its item, the fold keeps
it exactly under all the conditions. -/
theorem foldl_keeps_iff {I P : σ → Prop} {Q : τ → Prop} {step : σ → τ → σ} {ts : List τ}
    (hI : ∀ t ∈ ts, ∀ s, I s → I (step s t))
    (hstep : ∀ t ∈ ts, ∀ s, I s → (P (step s t) ↔ P s ∧ Q t)) {s : σ} (hs : I s) :
    P (ts.foldl step s) ↔ P s ∧ ∀ t ∈ ts, Q t := by
  induction ts generalizing s with
  | nil => simp
  | cons t ts ih =>
    rw [List.foldl_cons, ih (fun t ht => hI t (List.mem_cons_of_mem _ ht))
      (fun t ht => hstep t (List.mem_cons_of_mem _ ht)) (hI t List.mem_cons_self s hs),
      hstep t List.mem_cons_self s hs, List.forall_mem_cons, and_assoc]

/-- The same where the condition is also about the items before. -/
theorem foldl_keeps_iff_of_prefix {I : List τ → σ → Prop} {P : σ → Prop} {Q : List τ → τ → Prop}
    {step : σ → τ → σ} {ts : List τ} {s : σ}
    (hI : ∀ done, ∀ t ∈ ts, ∀ s, I done s → I (done ++ [t]) (step s t))
    (hstep : ∀ done, ∀ t ∈ ts, ∀ s, I done s → (P (step s t) ↔ P s ∧ Q done t)) (hs : I [] s) :
    P (ts.foldl step s) ↔ P s ∧ ∀ done t rest, ts = done ++ t :: rest → Q done t := by
  have hboth : I ts (ts.foldl step s) ∧ (P (ts.foldl step s) ↔
      P s ∧ ∀ done t rest, ts = done ++ t :: rest → Q done t) := by
    induction ts using List.reverseRecOn with
    | nil => simpa using hs
    | append_singleton ts t ih =>
      obtain ⟨hinv, hiff⟩ := ih (fun done t ht => hI done t (List.mem_append_left _ ht))
        (fun done t ht => hstep done t (List.mem_append_left _ ht))
      have ht : t ∈ ts ++ [t] := by simp
      rw [List.foldl_concat]
      refine ⟨hI ts t ht _ hinv, (hstep ts t ht _ hinv).trans ?_⟩
      rw [hiff, and_assoc]
      refine and_congr_right fun _ => ⟨?_, fun h => ⟨?_, h ts t [] rfl⟩⟩
      · rintro ⟨hbefore, hlast⟩ done t' rest heq
        rcases List.eq_nil_or_concat rest with rfl | ⟨rest, t'', rfl⟩
        · obtain ⟨rfl, hsame⟩ := List.append_inj' heq rfl
          exact (List.cons.inj hsame).1 ▸ hlast
        · have happend : ts ++ [t] = (done ++ t' :: rest) ++ [t''] := by simpa using heq
          exact hbefore done t' rest (List.append_inj' happend rfl).1
      · intro done t' rest heq
        exact h done t' (rest ++ [t]) (by simp [heq])
  exact hboth.2

/-- Where a step keeps an observation of a state that has it exactly under a condition on its
item, every state of the fold has it exactly under all the conditions. -/
theorem forall_mem_scanl_iff {I P : σ → Prop} {Q : τ → Prop} {step : σ → τ → σ} {ts : List τ}
    (hI : ∀ t ∈ ts, ∀ s, I s → I (step s t))
    (hstep : ∀ t ∈ ts, ∀ s, I s → P s → (P (step s t) ↔ Q t)) {s : σ} (hs : I s) :
    (∀ s' ∈ ts.scanl step s, P s') ↔ P s ∧ ∀ t ∈ ts, Q t := by
  induction ts generalizing s with
  | nil => simp
  | cons t ts ih =>
    rw [List.scanl_cons, List.forall_mem_cons, ih (fun t ht => hI t (List.mem_cons_of_mem _ ht))
      (fun t ht => hstep t (List.mem_cons_of_mem _ ht)) (hI t List.mem_cons_self s hs),
      List.forall_mem_cons, ← and_assoc, ← and_assoc]
    refine and_congr_left fun _ => and_congr_right fun hP => ?_
    exact hstep t List.mem_cons_self s hs hP

/-! ## Items not seen before -/

section AppendMissing

variable [DecidableEq τ] {xs ys : List τ} {x : τ}

/-- The loop over the items with the set of those that it has seen. -/
def appendMissing (xs ys : List τ) : List τ :=
  ys.foldl (fun xs y => if y ∈ xs then xs else xs ++ [y]) xs

theorem mem_appendMissing : x ∈ appendMissing xs ys ↔ x ∈ xs ∨ x ∈ ys := by
  induction ys generalizing xs with
  | nil => simp [appendMissing]
  | cons y ys ih =>
    have hstep : appendMissing xs (y :: ys) =
        appendMissing (if y ∈ xs then xs else xs ++ [y]) ys := rfl
    rw [hstep, ih, List.mem_cons]
    split_ifs with hy
    · exact ⟨.imp_right .inr, fun h => h.elim .inl fun h => h.elim (fun h => .inl (h ▸ hy)) .inr⟩
    · rw [List.mem_append, List.mem_singleton, or_assoc]

theorem nodup_appendMissing (h : xs.Nodup) : (appendMissing xs ys).Nodup := by
  induction ys generalizing xs with
  | nil => exact h
  | cons y ys ih =>
    have hstep : appendMissing xs (y :: ys) =
        appendMissing (if y ∈ xs then xs else xs ++ [y]) ys := rfl
    rw [hstep]
    apply ih
    split_ifs with hy
    · exact h
    · exact List.nodup_append'.mpr ⟨h, List.nodup_singleton y, by simpa using hy⟩

theorem appendMissing_append (zs : List τ) :
    appendMissing xs (ys ++ zs) = appendMissing (appendMissing xs ys) zs := List.foldl_append

theorem appendMissing_of_subset (h : ∀ y ∈ ys, y ∈ xs) : appendMissing xs ys = xs := by
  induction ys with
  | nil => rfl
  | cons y ys ih =>
    have hstep : appendMissing xs (y :: ys) =
        appendMissing (if y ∈ xs then xs else xs ++ [y]) ys := rfl
    rw [hstep, if_pos (h y List.mem_cons_self)]
    exact ih fun y hy => h y (List.mem_cons_of_mem _ hy)

/-- The items that are there from the start may be left out. -/
theorem appendMissing_filter {xs' : List τ} (h : xs ⊆ xs') :
    appendMissing xs' (ys.filter (· ∉ xs)) = appendMissing xs' ys := by
  induction ys generalizing xs' with
  | nil => rfl
  | cons y ys ih =>
    have hstep : appendMissing xs' (y :: ys) =
        appendMissing (if y ∈ xs' then xs' else xs' ++ [y]) ys := rfl
    rw [hstep]
    by_cases hy : y ∈ xs
    · rw [List.filter_cons_of_neg (by simpa using hy), if_pos (h hy), ih h]
    · rw [List.filter_cons_of_pos (by simpa using hy)]
      refine ih fun x hx => ?_
      dsimp only
      split_ifs
      · exact h hx
      · exact List.mem_append_left _ (h hx)

/-- Items that are repeated change nothing. -/
theorem appendMissing_map_appendMissing {υ : Type*} [DecidableEq υ] (f : υ → τ) (us : List υ) :
    appendMissing xs ((appendMissing [] us).map f) = appendMissing xs (us.map f) := by
  induction us using List.reverseRecOn with
  | nil => rfl
  | append_singleton us u ih =>
    have hlast : appendMissing [] (us ++ [u]) =
        if u ∈ appendMissing [] us then appendMissing [] us else appendMissing [] us ++ [u] :=
      List.foldl_concat ..
    rw [hlast, List.map_append, appendMissing_append, ← ih]
    split_ifs with hu
    · refine (appendMissing_of_subset fun y hy => ?_).symm
      obtain rfl := List.mem_singleton.mp hy
      exact mem_appendMissing.mpr (.inr (List.mem_map_of_mem hu))
    · rw [List.map_append, appendMissing_append]

end AppendMissing

/-! ## Chunks -/

/-- `xs[offset : offset + n]` for the offsets `range(0, len(xs), n)`. -/
def chunks (n : Nat) (xs : List τ) : List (List τ) :=
  (List.range ((xs.length + n - 1) / n)).map fun i => (xs.drop (i * n)).take n

theorem flatten_chunks {n : Nat} (hn : 0 < n) (xs : List τ) : (chunks n xs).flatten = xs := by
  have htake (m : Nat) : ((List.range m).map fun i => (xs.drop (i * n)).take n).flatten =
      xs.take (m * n) := by
    induction m with
    | zero => simp
    | succ m ih =>
      rw [List.range_succ, List.map_append, List.flatten_append, ih, Nat.succ_mul, List.take_add]
      simp
  have hlong : xs.length ≤ (xs.length + n - 1) / n * n := by
    have hdiv := Nat.div_add_mod (xs.length + n - 1) n
    have hmod := Nat.mod_lt (xs.length + n - 1) hn
    rw [Nat.mul_comm]
    omega
  rw [chunks, htake, List.take_of_length_le hlong]

/-- A loop over chunks is the loop over the items. -/
theorem foldl_chunks {n : Nat} (hn : 0 < n) (step : σ → τ → σ) (xs : List τ) (s : σ) :
    (chunks n xs).foldl (fun s chunk => chunk.foldl step s) s = xs.foldl step s := by
  rw [← List.foldl_flatten, flatten_chunks hn]

/-! ## Searches -/

/-- Run `step` on the items in order, until the state is `done` after one of them. -/
def untilDone (done : σ → Bool) (step : τ → σ → σ) : List τ → σ → σ
  | [], s => s
  | t :: ts, s => if done (step t s) then step t s else untilDone done step ts (step t s)

variable {done : σ → Bool} {step : τ → σ → σ} {ts : List τ} {s : σ}

theorem untilDone_invariant {P : σ → Prop} (hstep : ∀ t ∈ ts, ∀ s, P s → P (step t s))
    (hs : P s) : P (untilDone done step ts s) := by
  induction ts generalizing s with
  | nil => exact hs
  | cons t ts ih =>
    have ht := hstep t List.mem_cons_self s hs
    rw [untilDone]
    split_ifs
    · exact ht
    · exact ih (fun t ht => hstep t (List.mem_cons_of_mem _ ht)) ht

/-- A search that no item ends visits every item, so what an item's step establishes and
the others keep holds afterwards. -/
theorem untilDone_visits {P : σ → Prop} {t : τ} (hmem : t ∈ ts)
    (hnever : ∀ t' ∈ ts, ∀ s, done s = false → done (step t' s) = false)
    (hkeep : ∀ t' s, P s → P (step t' s)) (hvisit : ∀ s, P (step t s)) (hs : done s = false) :
    P (untilDone done step ts s) := by
  induction ts generalizing s with
  | nil => exact absurd hmem List.not_mem_nil
  | cons t' ts ih =>
    have hnot := hnever t' List.mem_cons_self s hs
    rw [untilDone, hnot, if_neg Bool.false_ne_true]
    rcases List.mem_cons.mp hmem with rfl | htail
    · exact untilDone_invariant (fun t' _ => hkeep t') (hvisit s)
    · exact ih htail (fun t' ht' => hnever t' (List.mem_cons_of_mem _ ht')) hnot

/-- A search that is done ended with the step of one of its items. -/
theorem untilDone_ends (hs : done s = false) (hdone : done (untilDone done step ts s) = true) :
    ∃ t ∈ ts, ∃ s', done s' = false ∧ untilDone done step ts s = step t s' := by
  induction ts generalizing s with
  | nil => simp [untilDone, hs] at hdone
  | cons t ts ih =>
    rw [untilDone] at hdone ⊢
    split_ifs at hdone ⊢ with ht
    · exact ⟨t, List.mem_cons_self, s, hs, rfl⟩
    · obtain ⟨t', ht', s', hs', heq⟩ := ih (Bool.eq_false_iff.mpr ht) hdone
      exact ⟨t', List.mem_cons_of_mem _ ht', s', hs', heq⟩

/-- A search ends when some item's step ends it. -/
theorem untilDone_done_iff {D : τ → Prop}
    (hstep : ∀ t ∈ ts, ∀ s, done s = false → (done (step t s) = true ↔ D t))
    (hs : done s = false) : done (untilDone done step ts s) = true ↔ ∃ t ∈ ts, D t := by
  induction ts generalizing s with
  | nil => simp [untilDone, hs]
  | cons t ts ih =>
    have ht := hstep t List.mem_cons_self s hs
    rw [untilDone]
    by_cases hdone : done (step t s) = true
    · rw [if_pos hdone]
      exact ⟨fun _ => ⟨t, List.mem_cons_self, ht.mp hdone⟩, fun _ => hdone⟩
    · rw [if_neg hdone, ih (fun t ht => hstep t (List.mem_cons_of_mem _ ht))
        (Bool.eq_false_iff.mpr hdone)]
      have hnot : ¬D t := fun hD => hdone (ht.mpr hD)
      simp [hnot]

/-- What a search appends: the pieces of the items up to the first that ends it. -/
theorem mem_untilDone_trace {ι : Type*} {trace : σ → List ι} {piece : τ → List ι} {D : τ → Prop}
    (htrace : ∀ t s, trace (step t s) = trace s ++ piece t)
    (hstep : ∀ t s, done s = false → (done (step t s) = true ↔ D t)) (hs : done s = false)
    {e : ι} : e ∈ trace (untilDone done step ts s) ↔ e ∈ trace s ∨
      ∃ before t after, ts = before ++ t :: after ∧ (∀ t' ∈ before, ¬D t') ∧ e ∈ piece t := by
  induction ts generalizing s with
  | nil => simp [untilDone]
  | cons t ts ih =>
    have hsplit : (∃ before t' after, t :: ts = before ++ t' :: after ∧
        (∀ b ∈ before, ¬D b) ∧ e ∈ piece t') ↔ e ∈ piece t ∨ ¬D t ∧
        ∃ before t' after, ts = before ++ t' :: after ∧ (∀ b ∈ before, ¬D b) ∧ e ∈ piece t' := by
      constructor
      · rintro ⟨before, t', after, heq, hbefore, he⟩
        cases before with
        | nil =>
          obtain ⟨rfl, -⟩ := List.cons.inj heq
          exact Or.inl he
        | cons b before =>
          obtain ⟨rfl, htail⟩ := List.cons.inj heq
          exact Or.inr ⟨hbefore _ List.mem_cons_self, before, t', after, htail,
            fun b hb => hbefore b (List.mem_cons_of_mem _ hb), he⟩
      · rintro (he | ⟨hD, before, t', after, rfl, hbefore, he⟩)
        · exact ⟨[], t, ts, rfl, by simp, he⟩
        · exact ⟨t :: before, t', after, rfl, List.forall_mem_cons.mpr ⟨hD, hbefore⟩, he⟩
    rw [untilDone, hsplit]
    by_cases hdone : done (step t s) = true
    · simp [hdone, (hstep t s hs).mp hdone, htrace]
    · have hD : ¬D t := fun hD => hdone ((hstep t s hs).mpr hD)
      rw [if_neg hdone, ih (Bool.eq_false_iff.mpr hdone), htrace, List.mem_append]
      simp [hD, or_assoc]

/-! ## Steps that can raise -/

/-- A comprehension returns exactly when it returns on every item. -/
theorem mapM_eq_ok_iff {f : τ → Except ε σ} {items : List τ} :
    (∃ results, items.mapM f = .ok results) ↔ ∀ a ∈ items, ∃ b, f a = .ok b := by
  induction items with
  | nil => simp [pure, Except.pure]
  | cons a items ih =>
    rw [List.mapM_cons, List.forall_mem_cons, ← ih]
    cases hfirst : f a with
    | error e => simp [bind, Except.bind]
    | ok b =>
      cases hrest : items.mapM f <;> simp [bind, Except.bind, pure, Except.pure]

theorem mapM_eq_ok {f : τ → Except ε σ} {g : τ → σ} {items : List τ}
    (h : ∀ a ∈ items, f a = .ok (g a)) : items.mapM f = .ok (items.map g) := by
  induction items with
  | nil => rfl
  | cons a items ih =>
    rw [List.mapM_cons, h a List.mem_cons_self, ih fun b hb => h b (List.mem_cons_of_mem _ hb)]
    rfl

end MediaMasterr.Foundations.Loops
