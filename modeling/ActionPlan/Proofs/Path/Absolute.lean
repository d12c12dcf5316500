import ActionPlan.Proofs.Path.Writing

/-!
# Absolute Folders Without Links

On a disk without links nothing is found out by looking, so a sandbox below an absolute folder
has to be a matter of texts alone. `Path.placeFrom` is that matter: it cuts the text of a path at
its slashes and works the pieces off from left to right. It knows no components, and no disk is
asked.

Resolving keeps a path and takes components off its end, while the pieces move a location. The
two agree because what resolving has so far is always the path of a location: the root comes
first and is its own parent, so no parent is ever left over. That is all that the absolute folder
is needed for, and below a relative one it fails.

What a sandbox accepts can be given to it again. For this the path has to survive being written
and read, and it does because its names are pieces: a piece has no slash in it, and a piece that
is empty, a point or a parent never becomes a name.

## Main definitions

* `Path.placeFrom`: Where a text leads from a location, by its pieces.
* `Path.IsName`: What a piece has to be to become a name.

## Theorems

* `foldl_follow_ofText`: A path that was read leads where the pieces of its text do.
* `isName_of_mem_placeFrom`: Every step of a place is a name.
* `ofText_text_pathOf`: The path of a location survives being written and read.
* `resolve_eq_pathOf`: Without links, an absolute path resolves to where it leads.
* `Sandbox.validate_below_absolute`: A sandbox below an absolute folder judges by places.
-/

namespace ActionPlan

namespace Path

/-- Where a piece between two slashes leads. Nothing and a point stay, two points go up, and the
    root is above itself. -/
def takePiece (here : List String) (piece : List Char) : List String :=
  if piece = [] ∨ piece = ['.'] then here
  else if piece = ['.', '.'] then here.dropLast
  else here ++ [String.ofList piece]

/-- Where a text leads that is seen from a location, by its pieces alone. A slash in front starts
    over at the root. -/
def placeFrom (here : List String) (text : String) : List String :=
  (text.toList.splitOn '/').foldl takePiece (if text.toList.head? = some '/' then [] else here)

/-- The text can be a name in a path: it is neither empty nor a point nor a parent, and there is
    no slash in it. -/
structure IsName (s : String) : Prop where
  ne_empty : s ≠ ""
  ne_point : s ≠ "."
  ne_parent : s ≠ ".."
  not_slash : '/' ∉ s.toList

/-! ### Reading by pieces -/

theorem pieces_eq_splitOn (text : List Char) : pieces text = text.splitOn '/' := by
  induction text with
  | nil => rfl
  | cons c text ih =>
      rw [pieces, ih, List.splitOn_cons_eq_if_modifyHead]
      split
      · rfl
      · -- There is a piece for the character to go into.
        rcases List.exists_cons_of_ne_nil (List.splitOn_ne_nil '/' text) with ⟨p, ps, hpieces⟩
        rw [hpieces]
        rfl

theorem slash_not_mem_of_mem_splitOn {text piece : List Char}
    (h : piece ∈ text.splitOn '/') : '/' ∉ piece := by
  induction text generalizing piece with
  | nil =>
      rw [List.splitOn_nil, List.mem_singleton] at h
      rw [h]
      exact List.not_mem_nil
  | cons c text ih =>
      rw [List.splitOn_cons_eq_if_modifyHead] at h
      split at h
      · -- A slash opens a new piece and is in none.
        rcases List.mem_cons.mp h with rfl | hmem
        · exact List.not_mem_nil
        · exact ih hmem
      · next hslash =>
        rcases List.exists_cons_of_ne_nil (List.splitOn_ne_nil '/' text) with ⟨p, ps, hpieces⟩
        rw [hpieces, List.modifyHead_cons] at h
        rw [hpieces] at ih
        -- The character goes into the first piece, and it is no slash.
        rcases List.mem_cons.mp h with rfl | hmem
        · intro hin
          rcases List.mem_cons.mp hin with rfl | hin
          · exact hslash rfl
          · exact ih List.mem_cons_self hin
        · exact ih (List.mem_cons_of_mem p hmem)

/-- A piece does what its component does, if it has one. -/
theorem takePiece_eq (here : List String) (piece : List Char) :
    takePiece here piece = (component? piece).elim here (follow here) := by
  unfold takePiece component?
  by_cases hstay : piece = [] ∨ piece = ['.']
  · -- These pieces stay where they are and have no component.
    have htest : (piece.isEmpty || piece == ['.']) = true := by
      rwa [Bool.or_eq_true, List.isEmpty_iff, beq_iff_eq]
    rw [if_pos htest, if_pos hstay]
    rfl
  · have htest : ¬ (piece.isEmpty || piece == ['.']) = true := by
      rwa [Bool.or_eq_true, List.isEmpty_iff, beq_iff_eq]
    rw [if_neg htest, if_neg hstay]
    -- Of the others, one goes up, and the rest are names.
    by_cases hparent : piece = ['.', '.']
    · rw [if_pos (beq_iff_eq.mpr hparent), if_pos hparent]
      rfl
    · rw [if_neg (mt beq_iff_eq.mp hparent), if_neg hparent]
      rfl

theorem foldl_follow_filterMap (parts : List (List Char)) (here : List String) :
    (parts.filterMap component?).foldl follow here = parts.foldl takePiece here := by
  induction parts generalizing here with
  | nil => rfl
  | cons piece parts ih =>
      rw [List.foldl_cons, takePiece_eq, List.filterMap_cons]
      cases component? piece with
      | none => exact ih here
      | some c => exact ih (follow here c)

/-- A path that was read leads where the pieces of its text do. -/
theorem foldl_follow_ofText (here : List String) (text : String) :
    (ofText text).foldl follow here = placeFrom here text := by
  unfold ofText placeFrom
  simp only [beq_iff_eq]
  rw [pieces_eq_splitOn]
  split
  · rw [List.foldl_cons, foldl_follow_filterMap]
    rfl
  · exact foldl_follow_filterMap _ here

/-! ### Places and names -/

theorem isName_of_mem_takePiece {here : List String} {piece : List Char}
    (hhere : ∀ s ∈ here, IsName s) (hpiece : '/' ∉ piece) :
    ∀ s ∈ takePiece here piece, IsName s := by
  unfold takePiece
  split
  · exact hhere
  · next hstay =>
    rw [not_or] at hstay
    split
    · -- Going up only takes a name away.
      exact fun s hs => hhere s (List.dropLast_subset here hs)
    · next hparent =>
      intro s hs
      rcases List.mem_append.mp hs with hs | hs
      · exact hhere s hs
      · -- The new name is the piece, which is none of the three with a meaning of their own.
        have hlist : s.toList = piece := by
          rw [List.mem_singleton.mp hs, String.toList_ofList]
        refine ⟨?_, ?_, ?_, hlist ▸ hpiece⟩
        · rintro rfl
          exact hstay.1 hlist.symm
        · rintro rfl
          exact hstay.2 hlist.symm
        · rintro rfl
          exact hparent hlist.symm

theorem isName_of_mem_foldl {pieces : List (List Char)} {here : List String}
    (hhere : ∀ s ∈ here, IsName s) (hpieces : ∀ piece ∈ pieces, '/' ∉ piece) :
    ∀ s ∈ pieces.foldl takePiece here, IsName s := by
  induction pieces generalizing here with
  | nil => exact hhere
  | cons piece pieces ih =>
      rw [List.foldl_cons]
      exact ih (isName_of_mem_takePiece hhere (hpieces piece List.mem_cons_self))
        fun other hmem => hpieces other (List.mem_cons_of_mem piece hmem)

/-- Every step of a place is a name, if those of the location are. -/
theorem isName_of_mem_placeFrom {here : List String} (hhere : ∀ s ∈ here, IsName s)
    (text : String) : ∀ s ∈ placeFrom here text, IsName s := by
  refine isName_of_mem_foldl ?_ fun piece hmem => slash_not_mem_of_mem_splitOn hmem
  split
  · exact fun s hs => absurd hs List.not_mem_nil
  · exact hhere

/-- A name is read as itself. -/
theorem IsName.component? {s : String} (h : IsName s) :
    component? s.toList = some (.name s) := by
  have hempty : s.toList ≠ [] := fun heq => h.ne_empty (String.toList_inj.mp heq)
  have hpoint : s.toList ≠ ['.'] := fun heq => h.ne_point (String.toList_inj.mp heq)
  have hparent : s.toList ≠ ['.', '.'] := fun heq => h.ne_parent (String.toList_inj.mp heq)
  have htest : ¬ (s.toList.isEmpty || s.toList == ['.']) = true := by
    rw [Bool.or_eq_true, List.isEmpty_iff, beq_iff_eq]
    exact not_or.mpr ⟨hempty, hpoint⟩
  rw [Path.component?, if_neg htest, if_neg (mt beq_iff_eq.mp hparent), String.ofList_toList]

theorem filterMap_component? {names : List String} (h : ∀ s ∈ names, IsName s) :
    (names.map String.toList).filterMap component? = names.map Component.name := by
  induction names with
  | nil => rfl
  | cons s names ih =>
      rw [List.map_cons, List.filterMap_cons, (h s List.mem_cons_self).component?, List.map_cons,
        ih fun t ht => h t (List.mem_cons_of_mem s ht)]

theorem toList_text_pathOf (names : List String) : (text (Disk.pathOf names)).toList =
    '/' :: ['/'].intercalate (names.map String.toList) := by
  have htexts : (names.map Component.name).map componentText = names := by
    rw [List.map_map]
    exact List.map_id names
  rw [Disk.pathOf, text, htexts, String.toList_append, String.toList_intercalate]
  rfl

/-- The path of a location survives being written and read. -/
theorem ofText_text_pathOf {names : List String} (h : ∀ s ∈ names, IsName s) :
    ofText (text (Disk.pathOf names)) = Disk.pathOf names := by
  have hlist := toList_text_pathOf names
  have hhead : (text (Disk.pathOf names)).toList.head? == some '/' := by rw [hlist]; rfl
  have hpieces : (pieces (text (Disk.pathOf names)).toList).filterMap component? =
      names.map Component.name := by
    -- In front of the first slash there is an empty piece.
    rw [hlist, pieces_eq_splitOn, List.splitOn_cons_eq_if_modifyHead, if_pos (beq_self_eq_true '/'),
      List.filterMap_cons]
    by_cases hnil : names = []
    · rw [hnil]
      rfl
    · have hnone : ∀ piece ∈ names.map String.toList, '/' ∉ piece := by
        intro piece hmem
        rcases List.mem_map.mp hmem with ⟨s, hs, rfl⟩
        exact (h s hs).not_slash
      rw [List.splitOn_intercalate '/' hnone (List.map_eq_nil_iff.not.mpr hnil)]
      exact filterMap_component? h
  unfold ofText
  simp only
  rw [if_pos hhead, hpieces]
  rfl

end Path

namespace Disk

open ActionPlan.Path

/-- Without links, an absolute path resolves to the path of where it leads. -/
theorem resolve_eq_pathOf {disk : Disk} (hdisk : disk.IsLinkFree) {p : Path} (hp : p.RootFirst)
    (habs : p.isAbsolute) : disk.resolve p = pathOf (normalForm p) := by
  have hresolved : ∃ place, disk.resolve p = pathOf place ∧ disk.IsResolved place :=
    resolve_of_isAbsolute hp habs
  rcases hresolved with ⟨place, hplace, _⟩
  have hleads : normalForm (disk.resolve p) = normalForm p := foldl_follow_resolve hdisk hp []
  rw [← hleads, hplace, normalForm_pathOf]

end Disk

namespace Sandbox

open ActionPlan.Path

variable {disk : Disk} {folder : String}

/-- Without links, an absolute folder is where its text leads. -/
theorem root_below_absolute (hdisk : disk.IsLinkFree) (habs : (ofText folder).isAbsolute) :
    (below disk folder).root = Disk.pathOf (placeFrom [] folder) := by
  rw [← foldl_follow_ofText]
  exact Disk.resolve_eq_pathOf hdisk (rootFirst_ofText folder) habs

/-- Without links, a path leads from an absolute folder where its pieces do. -/
theorem resolve_join_absolute (hdisk : disk.IsLinkFree) (habs : (ofText folder).isAbsolute)
    (path : String) : disk.resolve ((below disk folder).root.join (ofText path)) =
      Disk.pathOf (placeFrom (placeFrom [] folder) path) := by
  rw [root_below_absolute hdisk habs]
  rcases join_pathOf (placeFrom [] folder) path with ⟨hfirst, hjoin⟩
  rw [Disk.resolve_eq_pathOf hdisk hfirst hjoin, normalForm_join, normalForm_pathOf,
    foldl_follow_ofText]

theorem validate_below_eq_ok_iff (hdisk : disk.IsLinkFree) (habs : (ofText folder).isAbsolute)
    (path : String) (r : Path) : (below disk folder).validate path = .ok r ↔
      r = Disk.pathOf (placeFrom (placeFrom [] folder) path) ∧
        placeFrom [] folder <+: placeFrom (placeFrom [] folder) path := by
  rw [validate_eq_ok_iff]
  change disk.resolve _ = r ∧ _ ↔ _
  rw [resolve_join_absolute hdisk habs, root_below_absolute hdisk habs]
  constructor
  · rintro ⟨rfl, hprefix⟩
    exact ⟨rfl, prefix_of_pathOf_prefix hprefix⟩
  · rintro ⟨rfl, rest, hrest⟩
    exact ⟨rfl, rest.map Component.name, by rw [← hrest, Disk.pathOf_append]⟩

theorem validate_of_ne_ok {sandbox : Sandbox} {path : String}
    (h : ∀ r, sandbox.validate path ≠ .ok r) :
    sandbox.validate path = .error ⟨path, sandbox.root.text⟩ := by
  unfold validate at h ⊢
  simp only at h ⊢
  split
  · next hwithin =>
    rw [if_pos hwithin] at h
    exact absurd rfl (h _)
  · rfl

/-- The text of a place leads there from everywhere. -/
theorem placeFrom_text_pathOf {place : List String} (hplace : ∀ s ∈ place, IsName s)
    (here : List String) : placeFrom here (Disk.pathOf place).text = place := by
  rw [← foldl_follow_ofText, ofText_text_pathOf hplace, Disk.pathOf, List.foldl_cons,
    foldl_follow_names]
  rfl

/-- Names are compared as wholes, so a name that goes on is another name. -/
theorem not_prefix_of_longer {around rest : List String} {name more : String} (hmore : more ≠ "") :
    ¬ around ++ [name] <+: around ++ (name ++ more) :: rest := by
  rw [List.prefix_append_right_inj, List.cons_prefix_cons]
  rintro ⟨hname, _⟩
  have hlist := congrArg String.toList hname
  rw [String.toList_append, List.self_eq_append_right] at hlist
  exact hmore (String.toList_inj.mp hlist)

/-- With nothing on the disk, a sandbox below an absolute folder judges by the places that the
    texts lead to: it accepts what is at or below the place of the folder and answers with the
    place, which is made of names alone and is accepted again as it is. All else is refused, a
    neighbour whose name goes on where that of the folder ends among it. -/
theorem validate_below_absolute {folder : String} (hfolder : (ofText folder).isAbsolute)
    (path : String) :
    let sandbox := below {} folder
    let root := placeFrom [] folder
    let place := placeFrom root path
    sandbox.root = Disk.pathOf root ∧
      (∀ r, sandbox.validate path = .ok r ↔ r = Disk.pathOf place ∧ root <+: place) ∧
      (¬ root <+: place →
        sandbox.validate path = .error ⟨path, (Disk.pathOf root).text⟩) ∧
      (∀ s ∈ place, IsName s) ∧
      (root <+: place →
        sandbox.validate (Disk.pathOf place).text = .ok (Disk.pathOf place)) ∧
      ∀ around name more rest, root = around ++ [name] → more ≠ "" →
        place = around ++ (name ++ more) :: rest → ∀ r, sandbox.validate path ≠ .ok r := by
  intro sandbox root place
  have hdisk := Disk.isLinkFree_empty
  have hroot : sandbox.root = Disk.pathOf root := root_below_absolute hdisk hfolder
  have hok : ∀ r, sandbox.validate path = .ok r ↔ r = Disk.pathOf place ∧ root <+: place :=
    validate_below_eq_ok_iff hdisk hfolder path
  have hnames : ∀ s ∈ place, IsName s :=
    isName_of_mem_placeFrom
      (isName_of_mem_placeFrom (fun s hs => absurd hs List.not_mem_nil) folder) path
  refine ⟨hroot, hok, fun hout => ?_, hnames, fun hin => ?_, ?_⟩
  · -- A refusal shows the folder, and not the place that was asked for.
    rw [← hroot]
    exact validate_of_ne_ok fun r hr => hout ((hok r).mp hr).2
  · -- The place is absolute, so it does not matter where it is read from.
    have hagain : placeFrom root (Disk.pathOf place).text = place :=
      placeFrom_text_pathOf hnames root
    refine (validate_below_eq_ok_iff hdisk hfolder _ _).mpr ?_
    change Disk.pathOf place = Disk.pathOf (placeFrom root _) ∧ root <+: placeFrom root _
    rw [hagain]
    exact ⟨rfl, hin⟩
  · -- A name that goes on where the folder's ends is another name.
    intro around name more rest hnamed hmore hplace r hr
    have hprefix := ((hok r).mp hr).2
    rw [hnamed, hplace] at hprefix
    exact not_prefix_of_longer hmore hprefix

/-- A path that climbs above the root and comes back is accepted, and a neighbour is not. -/
theorem validate_below_absolute_neighbour :
    (ofText "/srv/./old/../ws//").isAbsolute = true ∧
      (below {} "/srv/./old/../ws//").validate "../../../srv/ws/./notes//a.txt" =
        .ok (Disk.pathOf ["srv", "ws", "notes", "a.txt"]) ∧
      (below {} "/srv/./old/../ws//").validate "/srv/ws/notes/a.txt" =
        .ok (Disk.pathOf ["srv", "ws", "notes", "a.txt"]) ∧
      (below {} "/srv/./old/../ws//").validate "../ws2/a.txt" =
        .error ⟨"../ws2/a.txt", "/srv/ws"⟩ := by
  have hfolder : (ofText "/srv/./old/../ws//").isAbsolute = true := by decide
  have hback := validate_below_absolute hfolder "../../../srv/ws/./notes//a.txt"
  have hnext := validate_below_absolute hfolder "../ws2/a.txt"
  refine ⟨hfolder, (hback.2.1 _).mpr ⟨?_, ?_⟩, hback.2.2.2.2.1 ?_, hnext.2.2.1 ?_⟩
  all_goals decide

end Sandbox

end ActionPlan
