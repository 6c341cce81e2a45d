import Depository.Proofs.Text.Lines
import Depository.Remotes
import Mathlib.Data.List.TakeWhile

/-!
# The remotes of a configuration, section by section

The remotes of a configuration are those of its sections one after another: where a header begins a
section, what comes before it has no part in what the section is, nor the other way round.  How the
lines end does not matter either.  The cut at headers and the reading of a section tell lines in
different ways, but both of them pass over a carriage return at the end of a line.

* `Remotes.headerName?_bare`, `Ini.parse_bare` — carriage returns matter neither to headers nor to
  documents;
* `Remotes.list_eq_splitOn` — so a configuration may be cut at its line feeds;
* `Remotes.split_append` — a header begins a section, whatever comes before it;
* `Remotes.list_compositional` — **the remotes of a text are those of its parts**.
-/

namespace Depository

open Text (bare isBlank pieces unlines)

/-! ### Documents -/

namespace Ini

/-- The document of a text is read from the pieces with something in them. -/
theorem parse_eq_pieces (text : List Char) :
    parse text = (do
      let b ← ((pieces text).map Line.read).foldlM Builder.step {}
      nest b.entries) := by
  have hempty : ∀ (ps : List (List Char)) (b : Builder),
      (ps.map Line.read).foldlM Builder.step b =
        ((ps.filter fun piece => !piece.isEmpty).map Line.read).foldlM Builder.step b := by
    intro ps
    induction ps with
    | nil => exact fun _ => rfl
    | cons piece ps ih =>
      intro b
      cases piece with
      | nil =>
        -- an empty line says nothing
        exact ih b
      | cons c cs =>
        have hkept : ((c :: cs) :: ps).filter (fun piece => !piece.isEmpty) =
            (c :: cs) :: ps.filter fun piece => !piece.isEmpty := rfl
        rw [hkept, List.map_cons, List.map_cons, List.foldlM_cons, List.foldlM_cons]
        exact bind_congr fun b' => ih b'
  rw [parse, pieces, hempty]

/-- **Lines are read as the bare lines are.** -/
theorem parse_bare (ls : List (List Char)) :
    parse (unlines (ls.map bare)) = parse (unlines ls) := by
  have hpieces : pieces (unlines (ls.map bare)) = pieces (unlines ls) := by
    rw [Text.pieces_unlines, Text.pieces_unlines, List.flatMap_map]
    exact congrArg (fun f => ls.flatMap f) (funext Text.pieces_bare)
  rw [parse_eq_pieces, parse_eq_pieces, hpieces]

/-- The first bracket that closes ends the name, and only blanks follow it. -/
theorem headerName?_of_closed {name : List Char} (hname : ']' ∉ name) (rest : List Char) :
    headerName? ('[' :: (name ++ ']' :: rest)) =
      if rest.all isBlank then some name else none := by
  have hall : ∀ c ∈ name, decide (c ≠ ']') = true := by
    intro c hc
    refine decide_eq_true ?_
    rintro rfl
    exact hname hc
  have hdrop : (name ++ ']' :: rest).dropWhile (· ≠ ']') = ']' :: rest := by
    rw [List.dropWhile_append_of_pos hall]
    rfl
  have htake : (name ++ ']' :: rest).takeWhile (· ≠ ']') = name := by
    rw [List.takeWhile_append_of_pos hall]
    simp
  simp only [headerName?, hdrop, htake]

theorem headerName?_of_not_closed {cs : List Char} (h : ']' ∉ cs) :
    headerName? ('[' :: cs) = none := by
  have hdrop : cs.dropWhile (· ≠ ']') = [] := by
    rw [List.dropWhile_eq_nil_iff]
    intro c hc
    refine decide_eq_true ?_
    rintro rfl
    exact h hc
  simp only [headerName?, hdrop]

/-- A line that does not begin with a bracket is no header. -/
theorem headerName?_of_blank {cs : List Char} (h : ∀ c ∈ cs, isBlank c = true) :
    headerName? cs = none := by
  cases cs with
  | nil => rfl
  | cons c cs =>
    have hc : c ≠ '[' := by
      rintro rfl
      exact absurd (h '[' (by simp)) (by decide)
    rw [headerName?]
    exact fun _ heq => hc (List.cons.inj heq).1

/-- Blanks after a header do not matter. -/
theorem headerName?_append {last : List Char} (h : ∀ c ∈ last, isBlank c = true)
    (cs : List Char) : headerName? (cs ++ last) = headerName? cs := by
  have hlast : ']' ∉ last := fun hmem => absurd (h _ hmem) (by decide)
  cases cs with
  | nil => exact headerName?_of_blank h
  | cons c cs =>
    by_cases hc : c = '['
    · subst hc
      by_cases hclosed : ']' ∈ cs
      · obtain ⟨name, rest, rfl, hname⟩ := List.eq_append_cons_of_mem hclosed
        have hblank : last.all isBlank = true := List.all_eq_true.2 h
        rw [List.cons_append, List.append_assoc, List.cons_append, headerName?_of_closed hname,
          headerName?_of_closed hname, List.all_append, hblank, Bool.and_true]
      · have hneither : ']' ∉ cs ++ last := by simp [hclosed, hlast]
        rw [List.cons_append, headerName?_of_not_closed hneither,
          headerName?_of_not_closed hclosed]
    · have hnone : ∀ rest, headerName? (c :: rest) = none := by
        intro rest
        rw [headerName?]
        exact fun _ heq => hc (List.cons.inj heq).1
      rw [List.cons_append, hnone, hnone]

end Ini

namespace Remotes

/-! ### Headers -/

/-- Blanks at the end of a line do not matter. -/
theorem headerName?_append {last : List Char} (h : ∀ c ∈ last, isBlank c = true)
    (line : List Char) : headerName? (line ++ last) = headerName? line := by
  have hlast : last.dropWhile isBlank = [] := List.dropWhile_eq_nil_iff.2 h
  have hdrop : Ini.headerName? ((line ++ last).dropWhile isBlank) =
      Ini.headerName? (line.dropWhile isBlank) := by
    rw [List.dropWhile_append]
    split
    · next hblank =>
      rw [hlast, List.isEmpty_iff.1 hblank]
    · exact Ini.headerName?_append h _
  rw [headerName?, headerName?, hdrop]

theorem headerName?_bare (line : List Char) : headerName? (bare line) = headerName? line := by
  obtain ⟨returns, hreturns, hline⟩ := Text.exists_eq_bare_append line
  have hblank : ∀ c ∈ returns, isBlank c = true := fun c hc => by rw [hreturns c hc]; rfl
  exact (headerName?_append hblank _).symm.trans (congrArg headerName? hline.symm)

/-- **A header** is a name in brackets, with or without blanks around it. -/
theorem headerName?_brackets {before name after : List Char}
    (hbefore : ∀ c ∈ before, isBlank c = true) (hname : name ≠ []) (hclosed : ']' ∉ name)
    (hafter : ∀ c ∈ after, isBlank c = true) :
    headerName? (before ++ '[' :: (name ++ ']' :: after)) = some (Text.strip isBlank name) := by
  have hdrop : (before ++ '[' :: (name ++ ']' :: after)).dropWhile isBlank =
      '[' :: (name ++ ']' :: after) := by
    rw [List.dropWhile_append_of_pos hbefore]
    rfl
  rw [headerName?, hdrop, Ini.headerName?_of_closed hclosed, if_pos (List.all_eq_true.2 hafter)]
  cases name with
  | nil => exact absurd rfl hname
  | cons c cs => rfl

/-! ### Sections -/

/-- A section with bare lines. -/
def Section.bared (s : Section) : Section := ⟨s.name, s.lines.map bare⟩

/-- **Bare lines are cut where the lines are.** -/
theorem split_map_bare (ls : List (List Char)) :
    split (ls.map bare) = ((split ls).1.map bare, (split ls).2.map Section.bared) := by
  induction ls with
  | nil => rfl
  | cons line rest ih =>
    rw [List.map_cons, split, split, ih, headerName?_bare]
    cases headerName? line <;> rfl

theorem isRemote_bared (s : Section) : s.bared.isRemote = s.isRemote := by
  rw [Section.isRemote, Section.isRemote, Section.bared, Ini.parse_bare]

theorem remotes_map_bared (ss : List Section) : remotes (ss.map Section.bared) = remotes ss := by
  induction ss with
  | nil => rfl
  | cons s ss ih =>
    rw [List.map_cons, remotes, remotes, isRemote_bared, ih]
    rfl

/-- Lines that differ in carriage returns at their ends have the same remotes. -/
theorem remotes_congr {ls ls' : List (List Char)} (h : ls.map bare = ls'.map bare) :
    remotes (split ls).2 = remotes (split ls').2 := by
  have hbared : ∀ ls : List (List Char),
      remotes (split (ls.map bare)).2 = remotes (split ls).2 := fun ls => by
    rw [split_map_bare, remotes_map_bared]
  rw [← hbared ls, ← hbared ls', h]

/-- **A configuration may be cut at its line feeds.** -/
theorem list_eq_splitOn (content : String) :
    list content = remotes (split (content.toList.splitOn '\n')).2 :=
  remotes_congr (Text.map_bare_lines content.toList)

/-- **A header begins a section**, whatever comes before it. -/
theorem split_append (ls : List (List Char)) {ls' : List (List Char)} (h : (split ls').1 = []) :
    split (ls ++ ls') = ((split ls).1, (split ls).2 ++ (split ls').2) := by
  induction ls with
  | nil => exact Prod.ext h rfl
  | cons line rest ih =>
    rw [List.cons_append, split, split, ih]
    cases headerName? line <;> rfl

/-- Where no line is a header there is no section. -/
theorem split_of_no_header {ls : List (List Char)} (h : ∀ l ∈ ls, headerName? l = none) :
    split ls = (ls, []) := by
  induction ls with
  | nil => rfl
  | cons line rest ih =>
    obtain ⟨hline, hrest⟩ := List.forall_mem_cons.1 h
    rw [split, ih hrest, hline]

theorem remotes_append (ss ss' : List Section) :
    remotes (ss ++ ss') = (do
      let names ← remotes ss
      let more ← remotes ss'
      return names ++ more) := by
  induction ss with
  | nil =>
    rw [List.nil_append]
    cases remotes ss' <;> rfl
  | cons s ss ih =>
    simp only [List.cons_append, remotes, ih, bind_assoc, pure_bind]
    refine bind_congr fun here => bind_congr fun names => bind_congr fun more => ?_
    cases here <;> rfl

/-! ### Texts -/

/-- The first line of the text is a header. -/
def BeginsWithHeader (content : String) : Prop :=
  ∃ line ∈ (Text.lines content.toList).head?, (headerName? line).isSome = true

/-- No line of the text is a header. -/
def HasNoHeader (content : String) : Prop :=
  ∀ line ∈ Text.lines content.toList, headerName? line = none

instance (content : String) : Decidable (BeginsWithHeader content) :=
  inferInstanceAs (Decidable (∃ line ∈ (Text.lines content.toList).head?, _ = true))

instance (content : String) : Decidable (HasNoHeader content) :=
  inferInstanceAs (Decidable (∀ line ∈ Text.lines content.toList, headerName? line = none))

theorem BeginsWithHeader.split {content : String} (h : BeginsWithHeader content) :
    (split (content.toList.splitOn '\n')).1 = [] := by
  obtain ⟨line, hline, hheader⟩ := h
  obtain ⟨rest, hlines⟩ := List.head?_eq_some_iff.1 hline
  have hbare := Text.map_bare_lines content.toList
  rw [hlines] at hbare
  cases hsplit : content.toList.splitOn '\n' with
  | nil => exact absurd hsplit (List.splitOn_ne_nil _ _)
  | cons first others =>
    rw [hsplit] at hbare
    have hsame : headerName? first = headerName? line := by
      rw [← headerName?_bare first, ← headerName?_bare line, (List.cons.inj hbare).1]
    obtain ⟨name, hname⟩ := Option.isSome_iff_exists.1 hheader
    rw [Remotes.split, hsame, hname]

theorem HasNoHeader.splitOn {content : String} (h : HasNoHeader content) :
    ∀ line ∈ content.toList.splitOn '\n', headerName? line = none := by
  intro line hline
  have hbare : bare line ∈ (Text.lines content.toList).map bare := by
    rw [Text.map_bare_lines]
    exact List.mem_map_of_mem hline
  obtain ⟨other, hother, hsame⟩ := List.mem_map.1 hbare
  rw [← headerName?_bare line, ← hsame, headerName?_bare]
  exact h other hother

/-- The text with a carriage return before every line feed. -/
def withReturns (content : String) : String := String.ofList (Text.withReturns content.toList)

theorem list_append (a : String) {b : String} (hb : BeginsWithHeader b) :
    list (a ++ "\n" ++ b) = (do
      let names ← list a
      let more ← list b
      return names ++ more) := by
  have hlines : (a ++ "\n" ++ b).toList.splitOn '\n' =
      a.toList.splitOn '\n' ++ b.toList.splitOn '\n' := by
    rw [String.toList_append, String.toList_append, List.append_assoc]
    exact List.splitOn_append_cons_self _ _
  rw [list_eq_splitOn, hlines, split_append _ hb.split, remotes_append, ← list_eq_splitOn,
    ← list_eq_splitOn]

theorem list_withReturns (content : String) : list (withReturns content) = list content := by
  rw [list_eq_splitOn, list_eq_splitOn, withReturns, String.toList_ofList]
  exact remotes_congr (Text.map_bare_withReturns content.toList)

theorem list_of_no_header {content : String} (h : HasNoHeader content) : list content = .ok [] := by
  rw [list_eq_splitOn, split_of_no_header h.splitOn]
  rfl

/-- **A text with one header** has the section of that name, and it is read by itself. -/
theorem list_of_header {header : String} {name : List Char}
    (hheader : headerName? header.toList = some name) (hline : '\n' ∉ header.toList)
    {body : String} (hbody : HasNoHeader body) :
    list (header ++ "\n" ++ body) =
      (Ini.parse body.toList).map fun document =>
        if hasType document then [String.ofList name] else [] := by
  have hlines : (header ++ "\n" ++ body).toList.splitOn '\n' =
      header.toList :: body.toList.splitOn '\n' := by
    rw [String.toList_append, String.toList_append, List.append_assoc]
    exact List.splitOn_append_cons_self_of_not_mem hline _
  have hsections : (split (header.toList :: body.toList.splitOn '\n')).2 =
      [⟨name, body.toList.splitOn '\n'⟩] := by
    rw [split, split_of_no_header hbody.splitOn, hheader]
  rw [list_eq_splitOn, hlines, hsections, remotes, Section.isRemote, Text.unlines,
    List.intercalate_splitOn]
  cases Ini.parse body.toList with
  | error fault => rfl
  | ok document => cases hasType document <;> rfl

/-- The names of remotes are those of their headers, in the same order. -/
theorem sublist_of_remotes {ss : List Section} {names : List String} (h : remotes ss = .ok names) :
    names.Sublist (ss.map fun s => String.ofList s.name) := by
  induction ss generalizing names with
  | nil =>
    obtain rfl := Except.ok.inj h
    exact .slnil
  | cons s ss ih =>
    rw [remotes] at h
    cases hhere : s.isRemote with
    | error fault =>
      rw [hhere] at h
      cases h
    | ok here =>
      cases hmore : remotes ss with
      | error fault =>
        rw [hhere, hmore] at h
        cases h
      | ok more =>
        rw [hhere, hmore] at h
        obtain rfl := Except.ok.inj h
        cases here with
        | true => exact (ih hmore).cons_cons _
        | false => exact (ih hmore).cons _

/-- **The remotes of a text are those of its parts.**  Where a header begins the second of two
texts, the remotes of both together are those of the first and then those of the second, and one of
them cannot be read if and only if both together cannot.  A carriage return before every line feed
changes nothing.  What one header begins is read by itself and has the name in the brackets, dots
included; what stands before all headers has no part in anything.  And the names stand in the order
of their headers. -/
theorem list_compositional :
    (∀ a b : String, BeginsWithHeader b →
      list (a ++ "\n" ++ b) = (do
        let names ← list a
        let more ← list b
        return names ++ more)) ∧
    (∀ a : String, list (withReturns a) = list a) ∧
    (∀ before name after body : String,
      (∀ c ∈ before.toList ++ after.toList, isBlank c = true ∧ c ≠ '\n') →
      name ≠ "" → (∀ c ∈ name.toList, c ≠ ']' ∧ c ≠ '\n') → HasNoHeader body →
      list (before ++ "[" ++ name ++ "]" ++ after ++ "\n" ++ body) =
        (Ini.parse body.toList).map fun document =>
          if hasType document then [Text.trim name] else []) ∧
    (∀ a : String, HasNoHeader a → list a = .ok []) ∧
    ∀ (a : String) (names : List String), list a = .ok names →
      names.Sublist ((sections a).map fun s => String.ofList s.name) := by
  refine ⟨fun a b => list_append a, list_withReturns, fun before name after body => ?one,
    fun a => list_of_no_header, fun a names => sublist_of_remotes⟩
  case one =>
    intro hblank hname hinner hbody
    obtain ⟨hbefore, hafter⟩ := List.forall_mem_append.1 hblank
    have hline : (before ++ "[" ++ name ++ "]" ++ after).toList =
        before.toList ++ '[' :: (name.toList ++ ']' :: after.toList) := by
      simp [String.toList_append]
    refine list_of_header ?_ ?_ hbody
    · rw [hline]
      exact headerName?_brackets (fun c hc => (hbefore c hc).1) (by simpa using hname)
        (fun hclosed => (hinner _ hclosed).1 rfl) fun c hc => (hafter c hc).1
    · rw [hline]
      simp only [List.mem_append, List.mem_cons, not_or]
      exact ⟨fun hc => (hbefore _ hc).2 rfl, by decide, fun hc => (hinner _ hc).2 rfl, by decide,
        fun hc => (hafter _ hc).2 rfl⟩

/-- Of two sections with dots in their names the first is a remote.  The second has no type, and the
type of the first is none of its. -/
theorem list_compositional_dotted :
    let first := "[my.s3]\r\ntype = s3\r"
    let second := " [my.disk] \nkey = 1"
    list (first ++ "\n" ++ second) = .ok ["my.s3"] ∧
      list (withReturns (first ++ "\n" ++ second)) = .ok ["my.s3"] ∧ list second = .ok [] := by
  intro first second
  obtain ⟨happend, hreturns, hone, -⟩ := list_compositional
  have hsecond : list second = .ok [] := by
    have hread := hone " " "my.disk" " " "key = 1" (by simp [isBlank]) (by decide +kernel)
      (by simp) (by decide +kernel)
    exact hread.trans (by decide +kernel)
  have hboth : list (first ++ "\n" ++ second) = .ok ["my.s3"] := by
    have hfirst : list first = .ok ["my.s3"] := by decide +kernel
    rw [happend first second (by decide +kernel), hfirst, hsecond]
    rfl
  exact ⟨hboth, (hreturns _).trans hboth, hsecond⟩

end Remotes

end Depository
