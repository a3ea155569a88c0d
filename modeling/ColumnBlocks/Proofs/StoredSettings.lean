import ColumnBlocks.Settings.Toml
import Mathlib.Data.List.Basic
import Mathlib.Data.List.TakeWhile
import Mathlib.Data.Option.Basic

/-!
# Settings written and read

Settings are stored as a document with one line for each of them.  The reader of documents takes such
a line as a key with a truth value, whatever follows it, so stored settings are read back.
-/

namespace ColumnBlocks

namespace Toml

/-- A key that needs no quotation marks. -/
structure IsBareKey (key : Text) : Prop where
  ne_nil : key ≠ []
  isKeyChar : ∀ c ∈ key, isKeyChar c = true

/-- The line that gives a truth value to a key. -/
def booleanLine (key : Text) (b : Bool) : Text := key ++ " = ".toList ++ Text.ofBool b ++ ['\n']

/-! ## The key of a line -/

theorem ne_of_isKeyChar {c d : Char} (hc : isKeyChar c = true) (hd : isKeyChar d = false) : c ≠ d := by
  rintro rfl
  rw [hc] at hd
  exact Bool.noConfusion hd

theorem dropBlanks_key {c : Char} (hc : isKeyChar c = true) (r : Text) :
    dropBlanks (c :: r) = c :: r := by
  have hblank : isBlank c = false := by
    simp [isBlank, ne_of_isKeyChar hc (d := ' ') (by decide),
      ne_of_isKeyChar hc (d := '\t') (by decide)]
  rw [dropBlanks, List.dropWhile_cons_of_neg (by simp [hblank])]

theorem dropFiller_key {c : Char} (hc : isKeyChar c = true) (r : Text) :
    dropFiller (c :: r) = c :: r := by
  have hcomment : dropComment (c :: r) = c :: r := by
    rw [dropComment]
    rintro r' h
    exact ne_of_isKeyChar hc (by decide) (List.cons.inj h).1
  have hline : afterNewline? (c :: r) = none := by
    rw [afterNewline?]
    · rintro r' h
      exact ne_of_isKeyChar hc (by decide) (List.cons.inj h).1
    · rintro r' h
      exact ne_of_isKeyChar hc (by decide) (List.cons.inj h).1
  rw [dropFiller, @Text.iterate_stop _ _ _ () _ (c :: r)]
  simp only [dropBlanks_key hc, hcomment, hline]

theorem lineString?_key {c : Char} (hc : isKeyChar c = true) (r : Text) :
    lineString? (c :: r) = none := by
  rw [lineString?]
  · rintro r' h
    exact ne_of_isKeyChar hc (by decide) (List.cons.inj h).1
  · rintro r' h
    exact ne_of_isKeyChar hc (by decide) (List.cons.inj h).1

theorem simpleKey?_append {key : Text} (hkey : IsBareKey key) {d : Char} (hd : isKeyChar d = false)
    (rest : Text) : simpleKey? (key ++ d :: rest) = some (key, d :: rest) := by
  have htake : (key ++ d :: rest).takeWhile isKeyChar = key := by
    rw [List.takeWhile_append_of_pos hkey.isKeyChar, List.takeWhile_cons_of_neg (by simp [hd]),
      List.append_nil]
  have hstring : lineString? (key ++ d :: rest) = none := by
    obtain ⟨c, r, rfl⟩ := List.exists_cons_of_ne_nil hkey.ne_nil
    exact lineString?_key (hkey.isKeyChar c List.mem_cons_self) _
  simp [simpleKey?, hstring, htake, hkey.ne_nil]

theorem key?_append {key : Text} (hkey : IsBareKey key) (rest : Text) :
    key? (key ++ (" = ".toList ++ rest)) = some ([key], "= ".toList ++ rest) := by
  have hsimple : simpleKey? (key ++ (" = ".toList ++ rest)) =
      some (key, " = ".toList ++ rest) := simpleKey?_append hkey (by decide) ("= ".toList ++ rest)
  rw [key?, hsimple, Option.bind_eq_bind, Option.bind_some]
  dsimp only
  rw [@Text.iterate_stop _ _ _ [key] _ ("= ".toList ++ rest)]
  · rfl
  · rfl

theorem value?_ofBool (depth : Nat) (b : Bool) (rest : Text) :
    value? depth (Text.ofBool b ++ '\n' :: rest) = some (.boolean b, '\n' :: rest) := by
  cases depth <;> cases b <;> rfl

theorem assignment?_booleanLine {key : Text} (hkey : IsBareKey key) (depth : Nat) (b : Bool)
    (rest : Text) :
    assignment? dropBlanks (value? depth) (booleanLine key b ++ rest) =
      some ([key], .boolean b, '\n' :: rest) := by
  have hline : booleanLine key b ++ rest =
      key ++ (" = ".toList ++ (Text.ofBool b ++ '\n' :: rest)) := by simp [booleanLine]
  have hequals : Text.after? ['='] (dropBlanks ("= ".toList ++ (Text.ofBool b ++ '\n' :: rest))) =
      some (' ' :: (Text.ofBool b ++ '\n' :: rest)) := rfl
  have hvalue : dropBlanks (' ' :: (Text.ofBool b ++ '\n' :: rest)) =
      Text.ofBool b ++ '\n' :: rest := by cases b <;> rfl
  rw [hline, assignment?, key?_append hkey]
  simp only [Option.bind_eq_bind, Option.bind_some, hequals, hvalue, value?_ofBool, Option.pure_def]

/-! ## The document -/

theorem exists_cons_of_booleanLine {key : Text} (hkey : IsBareKey key) (b : Bool) (rest : Text) :
    ∃ c t, booleanLine key b ++ rest = c :: t ∧ isKeyChar c = true := by
  obtain ⟨c, t, rfl⟩ := List.exists_cons_of_ne_nil hkey.ne_nil
  exact ⟨c, _, rfl, hkey.isKeyChar c List.mem_cons_self⟩

namespace Reader

theorem line?_booleanLine {r : Reader} (hr : r.current = []) {key : Text} (hkey : IsBareKey key)
    (hnew : r.root.get? key = none) (b : Bool) (rest : Text) :
    r.line? (booleanLine key b ++ rest) =
      some ({ r with root := r.root ++ [(key, .boolean b)] }, '\n' :: rest) := by
  obtain ⟨c, t, hline, hc⟩ := exists_cons_of_booleanLine hkey b rest
  have hassign := assignment?_booleanLine hkey maxDepth b rest
  have hinsert : r.root.assign? .header [] key (.boolean b) =
      some (.header, r.root ++ [(key, .boolean b)]) := by
    show (r.root.insert? key (.boolean b)).bind (fun es => some (Origin.header, es)) = _
    rw [Entries.insert?, hnew]
    rfl
  have hheader : c ≠ '[' := ne_of_isKeyChar hc (by decide)
  rw [hline] at hassign ⊢
  rw [line?]
  · rw [hassign, Option.bind_eq_bind, Option.bind_some]
    show (Entries.change false (fun o es => es.assign? o [] key (.boolean b)) .header r.root
      r.current).bind _ = _
    rw [hr, Entries.change, hinsert]
    rfl
  · rintro t' h
    exact hheader (List.cons.inj h).1
  · rintro t' h
    exact hheader (List.cons.inj h).1

/-- The line of a new key is taken as a whole. -/
theorem step_booleanLine {r : Reader} (hr : r.current = []) {key : Text} (hkey : IsBareKey key)
    (hnew : r.root.get? key = none) (b : Bool) (rest : Text) :
    r.step (booleanLine key b ++ rest) =
      .more { r with root := r.root ++ [(key, .boolean b)] } rest := by
  obtain ⟨c, t, hline, hc⟩ := exists_cons_of_booleanLine hkey b rest
  have hread := line?_booleanLine hr hkey hnew b rest
  have hend : afterLine? ('\n' :: rest) = some rest := rfl
  rw [hline] at hread ⊢
  rw [step, dropFiller_key hc]
  simp only [hread, Option.bind_eq_bind, Option.bind_some, hend, Option.pure_def]

/-- Lines of different keys are read one by one. -/
theorem iterate_booleanLines {r : Reader} (hr : r.current = []) {ls : List (Text × Bool)}
    (hkeys : ∀ l ∈ ls, IsBareKey l.1) (hdistinct : (ls.map Prod.fst).Nodup)
    (hnew : ∀ l ∈ ls, r.root.get? l.1 = none) :
    Text.iterate step r (ls.flatMap fun l => booleanLine l.1 l.2) =
      ({ r with root := r.root ++ ls.map fun l => (l.1, .boolean l.2) }, []) := by
  induction ls generalizing r with
  | nil =>
    have hempty : dropFiller [] = [] := by
      rw [dropFiller, @Text.iterate_stop _ _ _ () _ []]
      rfl
    have hstop : step r [] = .stop r [] := by rw [step, hempty]
    rw [List.flatMap_nil, Text.iterate_stop hstop]
    simp
  | cons l ls ih =>
    obtain ⟨hkey, hkeys⟩ := List.forall_mem_cons.mp hkeys
    obtain ⟨hlnew, hnew⟩ := List.forall_mem_cons.mp hnew
    obtain ⟨hnotin, hdistinct⟩ := List.nodup_cons.mp hdistinct
    let r' : Reader := { r with root := r.root ++ [(l.1, .boolean l.2)] }
    have hnew' : ∀ k ∈ ls, r'.root.get? k.1 = none := by
      intro k hk
      have hne : (k.1 == l.1) = false := by
        rw [beq_eq_false_iff_ne]
        exact fun h => hnotin (h ▸ List.mem_map_of_mem hk)
      have hbefore : r.root.lookup k.1 = none := hnew k hk
      show (r.root ++ [(l.1, Value.boolean l.2)]).lookup k.1 = none
      rw [List.lookup_append, hbefore, List.lookup_cons, hne]
      rfl
    have hstep := step_booleanLine hr hkey hlnew l.2 (ls.flatMap fun l => booleanLine l.1 l.2)
    have hshorter : (ls.flatMap fun l => booleanLine l.1 l.2).length <
        (booleanLine l.1 l.2 ++ ls.flatMap fun l => booleanLine l.1 l.2).length := by
      simp [booleanLine]
      omega
    rw [List.flatMap_cons, Text.iterate_more hstep hshorter, ih (r := r') hr hkeys hdistinct hnew',
      List.map_cons, List.append_cons]

end Reader

theorem read?_booleanLines {ls : List (Text × Bool)} (hkeys : ∀ l ∈ ls, IsBareKey l.1)
    (hdistinct : (ls.map Prod.fst).Nodup) :
    read? (ls.flatMap fun l => booleanLine l.1 l.2) =
      some (ls.map fun l => (l.1, .boolean l.2)) := by
  have hmark : Text.after? ['\uFEFF'] (ls.flatMap fun l => booleanLine l.1 l.2) = none := by
    cases ls with
    | nil => rfl
    | cons l ls =>
      obtain ⟨c, t, hline, hc⟩ := exists_cons_of_booleanLine (hkeys l List.mem_cons_self) l.2
        (ls.flatMap fun l => booleanLine l.1 l.2)
      rw [List.flatMap_cons, hline, Option.eq_none_iff_forall_ne_some]
      intro rest h
      have happend := List.isPrefixOf?_eq_some_iff_append_eq.mp h
      exact ne_of_isKeyChar hc (by decide) (List.cons.inj happend).1.symm
  have hread := Reader.iterate_booleanLines (r := {}) rfl hkeys hdistinct fun _ _ => rfl
  rw [read?, hmark, Option.getD_none, hread]
  rfl

end Toml

namespace Settings

theorem isBareKey_name (k : Setting) : Toml.IsBareKey k.name := by
  cases k <;> exact ⟨by decide, List.all_eq_true.mp (by decide)⟩

/-- Stored settings are read back. -/
theorem ofToml?_printed (s : Settings) : ofToml? s.printed = some s := by
  have hprinted : s.printed = (Setting.all.map fun k => (k.name, s.get k)).flatMap
      fun l => Toml.booleanLine l.1 l.2 := by
    rw [List.flatMap_map]
    rfl
  have hkeys : ∀ l ∈ Setting.all.map fun k => (k.name, s.get k), Toml.IsBareKey l.1 := by
    intro l hl
    obtain ⟨k, _, rfl⟩ := List.mem_map.mp hl
    exact isBareKey_name k
  have hdistinct : ((Setting.all.map fun k => (k.name, s.get k)).map Prod.fst).Nodup := by
    rw [List.map_map]
    show (Setting.all.map Setting.name).Nodup
    decide
  rw [ofToml?, hprinted, Toml.read?_booleanLines hkeys hdistinct]
  rfl

end Settings
end ColumnBlocks
