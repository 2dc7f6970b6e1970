import Mathlib

/-!
# Machinery/Tokens — tokens read by position, and loops over them

    position   p        q    r
               ▼        ▼    ▼
               t₀       t₁   t₂ …            read p = (t₀, q),  read q = (t₁, r),  …

A reader gives the token at a position and the position after it, or an error.  `Reads` is a run of
tokens between two positions, `Spells` one that is read wherever its octets stand.

* `loop` — `while position < n`, with a state; `Does` is what it does over a part of the text, which
  composes, and `does_tokens` says that a loop of one token a pass folds over them;
* `closing` — reading on to the token that closes what was opened; `closing_eq` says it finds the
  end of a `Balanced` run.
-/

namespace Tokens

variable {α τ σ ε : Type}

/-- What a writer makes of each of a list. -/
theorem forall₂_of_mapM {β γ : Type} {write : β → Option γ} {ys : List β} {xss : List γ}
    (h : ys.mapM write = some xss) : List.Forall₂ (fun y xs => write y = some xs) ys xss := by
  induction ys generalizing xss with
  | nil =>
    obtain rfl := Option.some.inj h
    exact List.Forall₂.nil
  | cons y ys ih =>
    simp only [List.mapM_cons, Option.bind_eq_bind, Option.bind_eq_some_iff] at h
    obtain ⟨xs, hxs, rest, hrest, hxss⟩ := h
    obtain rfl := Option.some.inj hxss
    exact List.Forall₂.cons hxs (ih hrest)

/-! ## Runs of tokens -/

section Reads

variable (read : ℕ → Except ε (τ × ℕ))

/-- The tokens from one position up to another. -/
def Reads : ℕ → List τ → ℕ → Prop
  | p, [], q => p = q
  | p, t :: ts, q => ∃ r, read p = .ok (t, r) ∧ Reads r ts q

/-- Every token takes up room. -/
def Advances : Prop := ∀ p t q, read p = .ok (t, q) → p < q

variable {read}

theorem reads_append {ts us : List τ} {p q : ℕ} :
    Reads read p (ts ++ us) q ↔ ∃ r, Reads read p ts r ∧ Reads read r us q := by
  induction ts generalizing p with
  | nil => exact ⟨fun h => ⟨p, rfl, h⟩, fun ⟨_, hp, h⟩ => hp ▸ h⟩
  | cons t ts ih =>
    constructor
    · rintro ⟨r, hread, hrest⟩
      obtain ⟨s, hts, hus⟩ := ih.mp hrest
      exact ⟨s, ⟨r, hread, hts⟩, hus⟩
    · rintro ⟨s, ⟨r, hread, hts⟩, hus⟩
      exact ⟨r, hread, ih.mpr ⟨s, hts, hus⟩⟩

theorem reads_singleton {t : τ} {p q : ℕ} : Reads read p [t] q ↔ read p = .ok (t, q) :=
  ⟨fun ⟨_, hread, hq⟩ => hq ▸ hread, fun h => ⟨q, h, rfl⟩⟩

theorem Reads.add_length_le (hadv : Advances read) {ts : List τ} {p q : ℕ}
    (h : Reads read p ts q) : p + ts.length ≤ q := by
  induction ts generalizing p with
  | nil => exact le_of_eq h
  | cons t ts ih =>
    obtain ⟨r, hread, hrest⟩ := h
    have := hadv p t r hread
    have := ih hrest
    rw [List.length_cons]
    omega

end Reads

/-! ## Loops -/

section Loop

variable (n : ℕ) (pass : σ → ℕ → Except ε (σ × ℕ))

/-- At most `k` passes while the position is before `n`. -/
def loopFrom : ℕ → σ → ℕ → Except ε σ
  | 0, s, _ => .ok s
  | k + 1, s, p => if p < n then pass s p >>= fun x => loopFrom k x.1 x.2 else .ok s

/-- `while position < n`, for passes that move on. -/
def loop (s : σ) (p : ℕ) : Except ε σ := loopFrom n pass (n - p) s p

/-- Every pass moves on. -/
def PassAdvances : Prop := ∀ s p s' q, pass s p = .ok (s', q) → p < q

variable {n pass} {s s' : σ} {p q : ℕ}

theorem loopFrom_of_le (h : n ≤ p) (k : ℕ) : loopFrom n pass k s p = .ok s := by
  cases k with
  | zero => rfl
  | succ k => rw [loopFrom, if_neg (not_lt.mpr h)]

theorem loop_of_le (h : n ≤ p) : loop n pass s p = .ok s := loopFrom_of_le h _

/-- More passes than positions change nothing. -/
theorem loopFrom_congr (hadv : PassAdvances pass) {k m : ℕ} (hk : n - p ≤ k) (hm : n - p ≤ m) :
    loopFrom n pass k s p = loopFrom n pass m s p := by
  induction k generalizing s p m with
  | zero =>
    have hp : n ≤ p := by omega
    rw [loopFrom_of_le hp, loopFrom_of_le hp]
  | succ k ih =>
    by_cases hp : p < n
    · obtain ⟨m, rfl⟩ : ∃ m', m = m' + 1 := ⟨m - 1, by omega⟩
      rw [loopFrom, loopFrom, if_pos hp, if_pos hp]
      cases hpass : pass s p with
      | error e => rfl
      | ok x =>
        have hq : p < x.2 := hadv s p x.1 x.2 hpass
        exact ih (by omega) (by omega)
    · rw [loopFrom_of_le (not_lt.mp hp), loopFrom_of_le (not_lt.mp hp)]

/-- **The loop is the loop**: passes never run out. -/
theorem loop_eq (hadv : PassAdvances pass) :
    loop n pass s p = if p < n then pass s p >>= fun x => loop n pass x.1 x.2 else .ok s := by
  by_cases hp : p < n
  · obtain ⟨k, hk⟩ : ∃ k, n - p = k + 1 := ⟨n - p - 1, by omega⟩
    rw [loop, hk, loopFrom, if_pos hp, if_pos hp]
    cases hpass : pass s p with
    | error e => rfl
    | ok x =>
      have hq : p < x.2 := hadv s p x.1 x.2 hpass
      exact loopFrom_congr hadv (by omega) le_rfl
  · rw [if_neg hp, loop_of_le (not_lt.mp hp)]

theorem loop_pass (hadv : PassAdvances pass) (hp : p < n) (hpass : pass s p = .ok (s', q)) :
    loop n pass s p = loop n pass s' q := by
  rw [loop_eq hadv, if_pos hp, hpass]
  rfl

/-- A pass that reads one token and takes it into the state. -/
def take (read : ℕ → Except ε (τ × ℕ)) (f : σ → τ → Except ε σ) (s : σ) (p : ℕ) :
    Except ε (σ × ℕ) :=
  read p >>= fun x => f s x.1 >>= fun s' => .ok (s', x.2)

theorem passAdvances_take {read : ℕ → Except ε (τ × ℕ)} (hadv : Advances read)
    (f : σ → τ → Except ε σ) : PassAdvances (take read f) := by
  intro s p s' q h
  rw [take] at h
  cases hread : read p with
  | error e =>
    rw [hread] at h
    cases h
  | ok x =>
    rw [hread] at h
    cases hf : f s x.1 with
    | error e =>
      change f s x.1 >>= _ = _ at h
      rw [hf] at h
      cases h
    | ok s₁ =>
      change f s x.1 >>= _ = _ at h
      rw [hf] at h
      cases h
      exact hadv p x.1 x.2 hread

end Loop

/-! ## Nesting -/

/-- What a token does to the nesting. -/
inductive Kind where
  | opens
  | closes
  | value
  deriving DecidableEq

section Nesting

variable (kind : τ → Kind)

/-- The depth after some tokens, which never close more than is open. -/
def depth : ℕ → List τ → Option ℕ
  | d, [] => some d
  | d, t :: ts =>
    match kind t, d with
    | .value, d => depth d ts
    | .opens, d => depth (d + 1) ts
    | .closes, 0 => none
    | .closes, d + 1 => depth d ts

/-- Every token that opens is closed, in order. -/
def Balanced (ts : List τ) : Prop := depth kind 0 ts = some 0

instance (ts : List τ) : Decidable (Balanced kind ts) :=
  inferInstanceAs (Decidable (depth kind 0 ts = some 0))

variable {kind} {ts us : List τ} {t c : τ} {d d' : ℕ}

theorem depth_append : depth kind d (ts ++ us) = (depth kind d ts).bind fun e => depth kind e us := by
  induction ts generalizing d with
  | nil => rfl
  | cons t ts ih =>
    rw [List.cons_append, depth.eq_def, depth.eq_def]
    rcases hkind : kind t with _ | _ | _ <;> cases d <;> simp only [hkind] <;>
      first | exact ih | rfl

/-- Tokens that stay above a depth stay above a greater one. -/
theorem depth_add (h : depth kind d ts = some d') (e : ℕ) :
    depth kind (d + e) ts = some (d' + e) := by
  induction ts generalizing d with
  | nil =>
    obtain rfl := Option.some.inj h
    rfl
  | cons t ts ih =>
    rw [depth.eq_def] at h ⊢
    rcases hkind : kind t with _ | _ | _ <;> simp only [hkind] at h ⊢
    · rw [Nat.add_right_comm]
      exact ih h
    · cases d with
      | zero => cases h
      | succ d =>
        rw [Nat.add_right_comm]
        exact ih h
    · exact ih h

theorem balanced_nil : Balanced kind [] := rfl

theorem Balanced.append (h : Balanced kind ts) (h' : Balanced kind us) :
    Balanced kind (ts ++ us) := by
  rw [Balanced, depth_append, h]
  exact h'

theorem balanced_value (h : kind t = .value) : Balanced kind [t] := by
  rw [Balanced, depth.eq_def]
  simp only [h]
  rfl

/-- What is between a token that opens and one that closes. -/
theorem Balanced.enclose (h : Balanced kind ts) (ht : kind t = .opens) (hc : kind c = .closes) :
    Balanced kind (t :: ts ++ [c]) := by
  have hts : depth kind 1 ts = some 1 := by
    rw [← Nat.zero_add 1]
    exact depth_add h 1
  rw [Balanced, List.cons_append, depth.eq_def]
  simp only [ht]
  rw [depth_append, Nat.zero_add, hts, Option.bind_some, depth.eq_def]
  simp only [hc]
  rfl

theorem balanced_of_values (h : ∀ t ∈ ts, kind t = .value) : Balanced kind ts := by
  induction ts with
  | nil => rfl
  | cons t ts ih =>
    rw [← List.singleton_append]
    exact (balanced_value (h t List.mem_cons_self)).append
      (ih fun t' ht' => h t' (List.mem_cons_of_mem t ht'))

variable (read : ℕ → Except ε (τ × ℕ)) (kind) (eof : ε)

/-- Read on, at a depth, to the token that closes: where it starts, and the position after it. -/
def closingFrom : ℕ → ℕ → ℕ → Except ε (ℕ × ℕ)
  | 0, _, _ => .error eof
  | k + 1, d, p => read p >>= fun x =>
    match kind x.1 with
    | .value => closingFrom k d x.2
    | .opens => closingFrom k (d + 1) x.2
    | .closes => if d = 1 then .ok (p, x.2) else closingFrom k (d - 1) x.2

/-- From after a token that opened, the token that closes it, in `n` octets. -/
def closing (n p : ℕ) : Except ε (ℕ × ℕ) := closingFrom kind read eof (n - p) 1 p

variable {read kind eof}

theorem closingFrom_eq {k p q : ℕ} (h : Reads read p ts q) (hk : ts.length < k)
    (hd : depth kind d ts = some d') :
    closingFrom kind read eof k (d + 1) p
      = closingFrom kind read eof (k - ts.length) (d' + 1) q := by
  induction ts generalizing k d p with
  | nil =>
    obtain rfl := Option.some.inj hd
    obtain rfl : p = q := h
    rfl
  | cons t ts ih =>
    obtain ⟨s, hread, hrest⟩ := h
    obtain ⟨k, rfl⟩ : ∃ k', k = k' + 1 := ⟨k - 1, by omega⟩
    rw [List.length_cons] at hk ⊢
    have hleft : k + 1 - (ts.length + 1) = k - ts.length := by omega
    rw [closingFrom, hread, hleft]
    change (match kind t with | .value => _ | .opens => _ | .closes => _) = _
    rw [depth.eq_def] at hd
    rcases ht : kind t with _ | _ | _ <;> simp only [ht] at hd ⊢
    · exact ih (k := k) hrest (by omega) hd
    · cases d with
      | zero => cases hd
      | succ d =>
        rw [if_neg (by omega)]
        exact ih (k := k) hrest (by omega) hd
    · exact ih (k := k) hrest (by omega) hd

theorem lt_of_closingFrom (hadv : Advances read) {k p q r : ℕ}
    (h : closingFrom kind read eof k d p = .ok (q, r)) : p < r := by
  induction k generalizing d p with
  | zero => cases h
  | succ k ih =>
    rw [closingFrom] at h
    cases hread : read p with
    | error e =>
      rw [hread] at h
      cases h
    | ok x =>
      rw [hread] at h
      have hp := hadv p x.1 x.2 hread
      change (match kind x.1 with | .value => _ | .opens => _ | .closes => _) = _ at h
      rcases hx : kind x.1 with _ | _ | _ <;> simp only [hx] at h
      · exact lt_trans hp (ih h)
      · split at h
        · cases h
          exact hp
        · exact lt_trans hp (ih h)
      · exact lt_trans hp (ih h)

/-- **The token that closes a balanced run is the one after it.** -/
theorem closing_eq (hadv : Advances read) {n p q r : ℕ} (h : Reads read p ts q)
    (hc : read q = .ok (c, r)) (hkind : kind c = .closes) (hr : r ≤ n)
    (hts : Balanced kind ts) : closing kind read eof n p = .ok (q, r) := by
  have hlength := h.add_length_le hadv
  have hq := hadv q c r hc
  rw [closing, ← Nat.zero_add 1, closingFrom_eq h (by omega) hts]
  obtain ⟨k, hk⟩ : ∃ k, n - p - ts.length = k + 1 := ⟨n - p - ts.length - 1, by omega⟩
  rw [hk, closingFrom, hc]
  change (match kind c with | .value => _ | .opens => _ | .closes => _) = _
  simp only [hkind, Nat.zero_add, if_true]

end Nesting

/-! ## Spelling -/

section Spells

variable (read : List α → ℕ → Except ε (τ × ℕ))

/-- Some octets are read as some tokens, wherever they stand. -/
def Spells (xs : List α) (ts : List τ) : Prop :=
  ∀ a b : List α, Reads (read (a ++ xs ++ b)) a.length ts (a.length + xs.length)

variable {read} {xs ys : List α} {ts us : List τ}

theorem spells_nil : Spells read [] [] := fun _ _ => rfl

theorem Spells.append (h : Spells read xs ts) (h' : Spells read ys us) :
    Spells read (xs ++ ys) (ts ++ us) := by
  intro a b
  have hxs := h a (ys ++ b)
  have hys := h' (a ++ xs) b
  rw [List.append_assoc a xs (ys ++ b)] at hxs
  rw [List.length_append, List.append_assoc (a ++ xs) ys b, List.append_assoc a xs (ys ++ b)] at hys
  rw [List.append_assoc, List.append_assoc, List.length_append, ← Nat.add_assoc]
  exact reads_append.mpr ⟨_, hxs, hys⟩

/-- Parts that are each spelled. -/
theorem spells_flatten {xss : List (List α)} {tss : List (List τ)}
    (h : List.Forall₂ (Spells read) xss tss) : Spells read xss.flatten tss.flatten := by
  induction h with
  | nil => exact spells_nil
  | cons hxs _ ih => exact hxs.append ih

theorem Spells.reads (h : Spells read xs ts) : Reads (read xs) 0 ts xs.length := by
  have := h [] []
  rwa [List.nil_append, List.append_nil, List.length_nil, Nat.zero_add] at this

variable (read) in
/-- A reader that reads the same octets alike in any place. -/
def ReadsInPlace : Prop := ∀ (a xs b : List α) (p : ℕ) (t : τ) (q : ℕ), read xs p = .ok (t, q) →
  q ≤ xs.length → read (a ++ xs ++ b) (a.length + p) = .ok (t, a.length + q)

/-- What is read exactly to its end is read alike wherever it stands. -/
theorem spells_of_reads (hplace : ReadsInPlace read)
    (hadv : ∀ xs, Advances (read xs)) (h : Reads (read xs) 0 ts xs.length) : Spells read xs ts := by
  intro a b
  have hmove : ∀ {ts : List τ} {p : ℕ}, Reads (read xs) p ts xs.length →
      Reads (read (a ++ xs ++ b)) (a.length + p) ts (a.length + xs.length) := by
    intro ts
    induction ts with
    | nil => exact fun h => congrArg (a.length + ·) h
    | cons t ts ih =>
      rintro p ⟨r, hread, hrest⟩
      have hr := hrest.add_length_le (hadv xs)
      exact ⟨_, hplace a xs b p t r hread (by omega), ih hrest⟩
  exact hmove h

end Spells

/-! ## What a loop does over a part of the text -/

section Does

variable (pass : List α → σ → ℕ → Except ε (σ × ℕ))

/-- Over these octets, wherever they stand, the loop goes from one state to another. -/
def Does (xs : List α) (s s' : σ) : Prop :=
  ∀ a b : List α,
    loop (a ++ xs ++ b).length (pass (a ++ xs ++ b)) s a.length
      = loop (a ++ xs ++ b).length (pass (a ++ xs ++ b)) s' (a.length + xs.length)

variable {pass} {xs ys : List α} {s s' s'' : σ}

theorem does_nil (s : σ) : Does pass [] s s := fun _ _ => rfl

theorem Does.append (h : Does pass xs s s') (h' : Does pass ys s' s'') :
    Does pass (xs ++ ys) s s'' := by
  intro a b
  have hfirst : a ++ xs ++ (ys ++ b) = a ++ (xs ++ ys) ++ b := by simp only [List.append_assoc]
  have hsecond : a ++ xs ++ ys ++ b = a ++ (xs ++ ys) ++ b := by simp only [List.append_assoc]
  have hxs := h a (ys ++ b)
  have hys := h' (a ++ xs) b
  rw [hfirst] at hxs
  have hstart : (a ++ xs).length = a.length + xs.length := List.length_append
  have hstop : a.length + xs.length + ys.length = a.length + (xs ++ ys).length := by
    rw [List.length_append, Nat.add_assoc]
  rw [hsecond, hstart, hstop] at hys
  exact hxs.trans hys

/-- Over the whole text the loop ends in that state. -/
theorem Does.loop_eq (h : Does pass xs s s') : loop xs.length (pass xs) s 0 = .ok s' := by
  have h' := h [] []
  rw [List.nil_append, List.append_nil, List.length_nil, Nat.zero_add] at h'
  rw [h', loop_of_le le_rfl]

/-- …or over the rest of it. -/
theorem Does.loop_rest (h : Does pass xs s s') (a : List α) :
    loop (a ++ xs).length (pass (a ++ xs)) s a.length = .ok s' := by
  have h' := h a []
  rw [List.append_nil] at h'
  rw [h', loop_of_le]
  rw [List.length_append]

/-- One pass. -/
theorem does_of_pass (hadv : ∀ xs, PassAdvances (pass xs))
    (h : ∀ a b, pass (a ++ xs ++ b) s a.length = .ok (s', a.length + xs.length)) :
    Does pass xs s s' := fun a b => by
  have hp := hadv _ _ _ _ _ (h a b)
  refine loop_pass (hadv _) ?_ (h a b)
  rw [List.length_append, List.length_append]
  omega

/-- The change of each part, in turn. -/
theorem does_flatten {β : Type} {f : σ → β → σ} {ys : List β} {xss : List (List α)}
    (h : List.Forall₂ (fun y xs => ∀ s, Does pass xs s (f s y)) ys xss) (s : σ) :
    Does pass xss.flatten s (ys.foldl f s) := by
  induction h generalizing s with
  | nil => exact does_nil s
  | cons hxs _ ih => exact (hxs s).append (ih _)

variable {read : List α → ℕ → Except ε (τ × ℕ)} {f : σ → τ → Except ε σ}

/-- **A loop that takes one token at a time folds over them.** -/
theorem does_tokens (hadv : ∀ xs, Advances (read xs)) {ts : List τ} (h : Spells read xs ts)
    (hf : ts.foldlM f s = .ok s') : Does (fun data => take (read data) f) xs s s' := by
  intro a b
  have hreads := h a b
  clear h
  have hend : a.length + xs.length ≤ (a ++ xs ++ b).length := by
    rw [List.length_append, List.length_append]
    omega
  revert hreads hf hend
  generalize a.length + xs.length = q
  generalize a.length = p
  intro hf hreads hend
  induction ts generalizing s p with
  | nil =>
    obtain rfl : p = q := hreads
    cases hf
    rfl
  | cons t ts ih =>
    obtain ⟨r, hread, hrest⟩ := hreads
    rw [List.foldlM_cons] at hf
    cases hs : f s t with
    | error e =>
      rw [hs] at hf
      cases hf
    | ok s₁ =>
      rw [hs] at hf
      have hp := hadv _ p t r hread
      have hr := hrest.add_length_le (hadv _)
      have hpass : take (read (a ++ xs ++ b)) f s p = .ok (s₁, r) := by
        rw [take, hread]
        change f s t >>= _ = _
        rw [hs]
        rfl
      exact (loop_pass (passAdvances_take (hadv _) f) (by omega) hpass).trans (ih r hf hrest)

end Does

end Tokens
