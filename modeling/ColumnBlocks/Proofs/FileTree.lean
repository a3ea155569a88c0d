import ColumnBlocks.Files.Tree

/-!
# What operations do to a tree of files

Making directories leaves all files as they are, and writing a file changes what is at one place: the
place where its path leads.  The way to that place consists of directories, which stay, so what was
written is found again under its path.
-/

namespace ColumnBlocks
namespace Files

theorem ok_of_bind {ε α β : Type} {x : Except ε α} {f : α → Except ε β} {b : β}
    (h : (x >>= f) = .ok b) : ∃ a, x = .ok a ∧ f a = .ok b := by
  cases x with
  | error e => cases h
  | ok a => exact ⟨a, rfl, h⟩

namespace Tree

/-! ## Places -/

theorem lookup_map_replace {α β : Type} [BEq α] [LawfulBEq α] [DecidableEq α] (es : List (α × β))
    (a : α) (b : β) (c : α) :
    (es.map fun (k, old) => if k == a then (k, b) else (k, old)).lookup c =
      if c = a then (es.lookup c).map fun _ => b else es.lookup c := by
  induction es with
  | nil => simp
  | cons e es ih =>
    obtain ⟨k, old⟩ := e
    by_cases hk : k = a
    · subst hk
      by_cases hc : c = k
      · subst hc
        simp
      · have hck : (c == k) = false := beq_eq_false_iff_ne.mpr hc
        simpa [List.lookup_cons, hck, hc] using ih
    · by_cases hc : c = k
      · subst hc
        simp [hk]
      · have hck : (c == k) = false := beq_eq_false_iff_ne.mpr hc
        simpa [List.lookup_cons, hck, hk] using ih

theorem get?_nil (fs : Tree) : fs.get? [] = some .directory := rfl

theorem get?_of_ne {p : Place} (hp : p ≠ []) (fs : Tree) : fs.get? p = fs.entries.lookup p := by
  rw [get?, if_neg]
  simpa using hp

theorem put_here (fs : Tree) (p : Place) (e : Entry) : (fs.put p e).here = fs.here := by
  unfold put
  split <;> rfl

/-- Putting an entry at a place changes what is there and nothing else. -/
theorem get?_put (fs : Tree) {p : Place} (hp : p ≠ []) (e : Entry) (q : Place) :
    (fs.put p e).get? q = if q = p then some e else fs.get? q := by
  by_cases hq : q = []
  · subst hq
    rw [get?_nil, get?_nil, if_neg (Ne.symm hp)]
  · rw [get?_of_ne hq, get?_of_ne hq, put]
    by_cases hthere : (fs.entries.lookup p).isSome = true
    · rw [if_pos hthere]
      refine (lookup_map_replace fs.entries p e q).trans ?_
      by_cases hqp : q = p
      · obtain ⟨old, hold⟩ := Option.isSome_iff_exists.mp hthere
        rw [if_pos hqp, if_pos hqp, hqp, hold, Option.map_some]
      · rw [if_neg hqp, if_neg hqp]
    · have hnone : fs.entries.lookup p = none := Option.not_isSome_iff_eq_none.mp hthere
      rw [if_neg hthere]
      show (fs.entries ++ [(p, e)]).lookup q = _
      rw [List.lookup_append]
      by_cases hqp : q = p
      · rw [hqp, hnone]
        simp
      · have hbeq : (q == p) = false := beq_eq_false_iff_ne.mpr hqp
        simp [List.lookup_cons, hbeq, hqp]

def fileAt? (fs : Tree) (p : Place) : Option Content :=
  match fs.get? p with
  | some (.file c) => some c
  | _ => none

/-- Where a path leads, whether something is there or not. -/
def place (fs : Tree) (path : Text) : Except Fault Place := do fs.walk (← fs.start path) (steps path)

/-- What is found at a place under a path that leads there. -/
def found (fs : Tree) (path : Text) (p : Place) : Except Fault (Place × Option Entry) :=
  match fs.get? p with
  | some (.file c) => if meansDirectory path then .error .notDirectory else .ok (p, some (.file c))
  | e => .ok (p, e)

theorem locate_eq (fs : Tree) (path : Text) : fs.locate path = fs.place path >>= fs.found path := by
  unfold locate place
  cases fs.start path with
  | error f => rfl
  | ok q =>
    show (fs.walk q (steps path) >>= _) = fs.walk q (steps path) >>= fs.found path
    rfl

theorem place_of_locate {fs : Tree} {path : Text} {p : Place} {e : Option Entry}
    (h : fs.locate path = .ok (p, e)) : fs.place path = .ok p ∧ fs.get? p = e := by
  rw [locate_eq] at h
  obtain ⟨q, hq, hfound⟩ := ok_of_bind h
  unfold found at hfound
  split at hfound
  · rename_i c hc
    split at hfound
    · cases hfound
    · cases hfound
      exact ⟨hq, hc⟩
  · cases hfound
    exact ⟨hq, rfl⟩

/-! ## Making directories -/

/-- Nothing is lost or changed from one tree to another, and only directories are added. -/
structure OnlyMakes (fs fs' : Tree) : Prop where
  here : fs'.here = fs.here
  get? : ∀ p, fs'.get? p = fs.get? p ∨ fs.get? p = none ∧ fs'.get? p = some .directory

namespace OnlyMakes

variable {fs fs' fs'' : Tree}

theorem refl (fs : Tree) : OnlyMakes fs fs := ⟨rfl, fun _ => Or.inl rfl⟩

theorem trans (h : OnlyMakes fs fs') (h' : OnlyMakes fs' fs'') : OnlyMakes fs fs'' := by
  refine ⟨h'.here.trans h.here, fun p => ?_⟩
  rcases h'.get? p with heq' | ⟨hnone', hmade'⟩
  · rw [heq']
    exact h.get? p
  · rcases h.get? p with heq | ⟨_, hmade⟩
    · exact Or.inr ⟨heq ▸ hnone', hmade'⟩
    · rw [hmade] at hnone'
      cases hnone'

theorem fileAt? (h : OnlyMakes fs fs') (p : Place) : fs'.fileAt? p = fs.fileAt? p := by
  unfold Tree.fileAt?
  rcases h.get? p with heq | ⟨hnone, hmade⟩
  · rw [heq]
  · rw [hnone, hmade]

end OnlyMakes

theorem makeDirectory_onlyMakes {fs fs' : Tree} {path : Text} (h : fs.makeDirectory path = .ok fs') :
    OnlyMakes fs fs' := by
  obtain ⟨⟨p, e⟩, hlocate, hmake⟩ := ok_of_bind h
  have hnone := (place_of_locate hlocate).2
  cases e with
  | some e => cases hmake
  | none =>
    cases hmake
    have hp : p ≠ [] := by
      rintro rfl
      cases hnone
    refine ⟨put_here fs p .directory, fun q => ?_⟩
    rw [get?_put fs hp]
    by_cases hqp : q = p
    · rw [if_pos hqp, hqp]
      exact Or.inr ⟨hnone, rfl⟩
    · rw [if_neg hqp]
      exact Or.inl rfl

theorem ensureDirectory_onlyMakes {fs fs' : Tree} {path : Text}
    (h : fs.ensureDirectory path = .ok fs') : OnlyMakes fs fs' := by
  unfold ensureDirectory at h
  split at h
  · rename_i fs₁ hmake
    cases h
    exact makeDirectory_onlyMakes hmake
  · split at h
    · cases h
      exact OnlyMakes.refl fs
    · cases h

theorem makeDirectoriesWithin_onlyMakes (fs : Tree) (path : Text) (depth : Nat) :
    OnlyMakes fs (fs.makeDirectoriesWithin path depth).2 := by
  induction depth generalizing path with
  | zero => exact OnlyMakes.refl fs
  | succ depth ih =>
    rw [makeDirectoriesWithin]
    split
    · exact OnlyMakes.refl fs
    · split
      · rename_i fs₁ hensure
        exact ensureDirectory_onlyMakes hensure
      · split
        · exact OnlyMakes.refl fs
        · rename_i parent _
          have hparent := ih parent
          split
          · rename_i f fs₁ hmade
            rw [hmade] at hparent
            exact hparent
          · rename_i fs₁ hmade
            rw [hmade] at hparent
            split
            · rename_i fs₂ hmake
              exact hparent.trans (makeDirectory_onlyMakes hmake)
            · exact hparent
      · exact OnlyMakes.refl fs

theorem makeDirectories_onlyMakes (fs : Tree) (path : Text) :
    OnlyMakes fs (fs.makeDirectories path).2 :=
  makeDirectoriesWithin_onlyMakes fs path _

/-! ## Writing -/

/-- Only one file is given a content from one tree to another: the one where a path leads. -/
def OnlyWrites (path : Text) (c : Content) (fs fs' : Tree) : Prop :=
  ∃ p, fs'.place path = .ok p ∧ fs'.fileAt? p = some c ∧
    ∀ q, q ≠ p → fs'.fileAt? q = fs.fileAt? q

theorem fileAt?_put (fs : Tree) {p : Place} (hp : p ≠ []) (c : Content) (q : Place) :
    (fs.put p (.file c)).fileAt? q = if q = p then some c else fs.fileAt? q := by
  unfold fileAt?
  rw [get?_put fs hp]
  by_cases hqp : q = p
  · rw [if_pos hqp, if_pos hqp]
  · rw [if_neg hqp, if_neg hqp]

theorem put_of_write {fs fs' : Tree} {path : Text} {c : Content} (h : fs.write path c = .ok fs') :
    meansDirectory path = false ∧
      ∃ p, fs.place path = .ok p ∧ fs.get? p ≠ some .directory ∧ fs' = fs.put p (.file c) := by
  by_cases hmeans : meansDirectory path = true
  · rw [write, if_pos hmeans] at h
    obtain ⟨q, _, h⟩ := ok_of_bind h
    obtain ⟨q', _, h⟩ := ok_of_bind h
    cases h
  · refine ⟨Bool.eq_false_iff.mpr hmeans, ?_⟩
    rw [write, if_neg hmeans] at h
    obtain ⟨⟨p, e⟩, hlocate, hput⟩ := ok_of_bind h
    obtain ⟨hplace, he⟩ := place_of_locate hlocate
    refine ⟨p, hplace, ?_, ?_⟩
    · rw [he]
      rintro rfl
      cases hput
    · cases e with
      | none =>
        cases hput
        rfl
      | some e =>
        cases e with
        | directory => cases hput
        | file old =>
          cases hput
          rfl

/-! ## Reading what was written -/

theorem walk_cons {fs : Tree} {p q : Place} {segment : Text} {rest : List Text} (hrest : rest ≠ []) :
    fs.walk p (segment :: rest) = .ok q ↔
      ∃ r, follow p segment = .ok r ∧ fs.get? r = some .directory ∧ fs.walk r rest = .ok q := by
  rw [walk]
  · constructor
    · intro h
      obtain ⟨r, hfollow, h⟩ := ok_of_bind h
      split at h
      · cases h
      · cases h
      · rename_i hr
        exact ⟨r, hfollow, hr, h⟩
    · rintro ⟨r, hfollow, hr, h⟩
      simp only [hfollow, bind, Except.bind, hr]
      exact h
  · exact hrest

/-- A way through directories can still be gone where all directories are kept. -/
theorem walk_of_directories {fs fs' : Tree}
    (hdirectory : ∀ q, fs.get? q = some .directory → fs'.get? q = some .directory) {p q : Place}
    {segments : List Text} (h : fs.walk p segments = .ok q) : fs'.walk p segments = .ok q := by
  induction segments generalizing p with
  | nil => exact h
  | cons segment rest ih =>
    by_cases hrest : rest = []
    · subst hrest
      exact h
    · obtain ⟨r, hfollow, hr, h⟩ := (walk_cons hrest).mp h
      exact (walk_cons hrest).mpr ⟨r, hfollow, hdirectory r hr, ih h⟩

theorem start_congr {fs fs' : Tree} (h : fs'.here = fs.here) (path : Text) :
    fs'.start path = fs.start path := by
  unfold start
  rw [h]

theorem onlyWrites_of_write {fs fs' : Tree} {path : Text} {c : Content}
    (h : fs.write path c = .ok fs') : OnlyWrites path c fs fs' := by
  obtain ⟨_, p, hplace, hp, rfl⟩ := put_of_write h
  have hne : p ≠ [] := by
    rintro rfl
    exact hp (get?_nil fs)
  refine ⟨p, ?_, ?_, fun q hq => ?_⟩
  · obtain ⟨q, hstart, hwalk⟩ := ok_of_bind hplace
    -- What is written over is no directory, so it lies on no way.
    have hkept : ∀ r, fs.get? r = some .directory → (fs.put p (.file c)).get? r = some .directory := by
      intro r hr
      rw [get?_put fs hne, if_neg]
      · exact hr
      · rintro rfl
        exact hp hr
    rw [place, start_congr (put_here fs p (.file c)), hstart]
    exact walk_of_directories hkept hwalk
  · rw [fileAt?_put fs hne, if_pos rfl]
  · rw [fileAt?_put fs hne, if_neg hq]

theorem get?_of_fileAt? {fs : Tree} {p : Place} {c : Content} (h : fs.fileAt? p = some c) :
    fs.get? p = some (.file c) := by
  unfold fileAt? at h
  split at h
  · rename_i c' hc'
    rw [hc', Option.some.inj h]
  · cases h

/-- What was written under a path is read under it. -/
theorem read_of_write {fs fs' : Tree} {path t : Text} (h : fs.write path (.text t) = .ok fs') :
    fs'.contains path = true ∧ fs'.read path = .ok t := by
  have hmeans := (put_of_write h).1
  obtain ⟨p, hplace, hself, _⟩ := onlyWrites_of_write h
  have hlocate : fs'.locate path = .ok (p, some (.file (.text t))) := by
    rw [locate_eq, hplace]
    show fs'.found path p = _
    rw [found, get?_of_fileAt? hself]
    simp only [hmeans, Bool.false_eq_true, if_false]
  refine ⟨?_, ?_⟩
  · rw [contains, hlocate]
  · rw [read, hlocate]
    rfl

end Tree
end Files
end ColumnBlocks
