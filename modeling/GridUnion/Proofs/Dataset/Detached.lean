import GridUnion.Drawing
import GridUnion.Proofs.Dataset.Build

/-!
# Datasets without origins

A child keeps its origin, by which it is told apart from others and closed.  Nothing else depends on
origins: children that are the same without them are put side by side alike, and the datasets give the
same data.
-/

namespace GridUnion

namespace Child

theorem map_detached_detached (cs : List Child) :
  (cs.map detached).map detached = cs.map detached
  := List.map_map

theorem difference?_detached (a b : Child) :
  a.detached.difference? b.detached = a.difference? b
  := by
  have hdims : ∀ dims, dimsDifference? a.detached b.detached dims = dimsDifference? a b dims := by
    intro dims
    induction dims with
    | nil => rfl
    | cons p dims ih =>
      rw [dimsDifference?, ih]
      rfl
  rw [difference?, hdims]
  rfl

end Child

namespace Dataset

/-- The dataset over the children without their origins. -/
def detached (d : Dataset) : Dataset :=
  { d with first := d.first.detached, rest := d.rest.map Child.detached }

theorem detached_detached (d : Dataset) :
  d.detached.detached = d.detached
  := by
  simp only [detached, Child.map_detached_detached]
  rfl

/-! ### Putting children side by side -/

theorem checkSimilar_detached (first : Child) (number : Nat) (cs : List Child) :
  checkSimilar first.detached number (cs.map Child.detached) = checkSimilar first number cs
  := by
  induction cs generalizing number with
  | nil => rfl
  | cons c cs ih =>
    rw [List.map_cons, checkSimilar, Child.difference?_detached, ih]
    rfl

theorem ownersFrom_detached (number : Nat) (owners : List (String × Nat)) (cs : List Child) :
  ownersFrom number owners (cs.map Child.detached) = ownersFrom number owners cs
  := by
  induction cs generalizing number owners with
  | nil => rfl
  | cons c cs ih =>
    simp only [List.map_cons, ownersFrom, ih]
    rfl

/-- Children without origins are put side by side as the children are. -/
theorem build_detached (id title : Value) (cs : List Child) :
  (build id (cs.map Child.detached) title).result
    = (build id cs title).result.map Dataset.detached
  := by
  cases cs with
  | nil => rfl
  | cons first rest =>
    have howners := ownersFrom_detached 0 [] (first :: rest)
    have haxes : ((first :: rest).map Child.detached).mapM Child.mergeValues
        = (first :: rest).mapM Child.mergeValues := by
      rw [List.mapM_map]
      rfl
    rw [List.map_cons] at howners haxes ⊢
    rw [result_build, result_build, checkSimilar_detached, howners, haxes]
    change _ = Dataset.detached <$> _
    simp only [map_bind, map_pure]
    rfl

theorem build_congr {cs cs' : List Child} (h : cs.map Child.detached = cs'.map Child.detached)
    (id title : Value) :
  (build id cs title).result.map Dataset.detached
    = (build id cs' title).result.map Dataset.detached
  := by
  rw [← build_detached, h, build_detached]

/-! ### Descriptions and drawings -/

theorem coverage_detached (d : Dataset) :
  d.detached.coverage = d.coverage
  := by
  have hlabels : d.detached.children.map Child.label = d.children.map Child.label := by
    change (d.children.map Child.detached).map Child.label = _
    rw [List.map_map]
    rfl
  rw [coverage, hlabels]
  rfl

theorem describe_detached (d : Dataset) :
  d.detached.describe = d.describe
  := by
  rw [describe, coverage_detached]
  rfl

theorem drawCoverage_detached (d : Dataset) (path : Option Value) :
  d.detached.drawCoverage path = d.drawCoverage path
  := by
  rw [drawCoverage, coverage_detached]
  rfl

/-! ### Contents -/

/-- The contents of a dataset: all but the origins of its children and its warnings. -/
def contents (d : Dataset) : Dataset := { d.detached with warnings := [] }

theorem getD_children_contents (d : Dataset) (k : Nat) :
  d.contents.children.getD k default = (d.children.getD k default).detached
  := by
  rw [List.getD_eq_getElem?_getD, List.getD_eq_getElem?_getD]
  change ((d.children.map Child.detached)[k]?).getD default = _
  rw [List.getElem?_map]
  cases d.children[k]? <;> rfl

/-- Data depend on the contents only. -/
theorem data_contents [Machine] (d : Dataset) (names : List String) (requests : List Request) :
  d.contents.data names requests = d.data names requests
  := by
  have hvariable : d.contents.variableData = d.variableData := by
    funext name merged others
    simp only [variableData, getD_children_contents]
    rfl
  have hvariables : d.contents.variablesData = d.variablesData := by
    funext merged others names data
    induction names generalizing data with
    | nil => rfl
    | cons v vs ih => simp only [variablesData, hvariable, ih]
  simp only [data, hvariables]
  rfl

theorem subset_contents [Machine] (d : Dataset) (names : List String) (requests : List Request) :
  d.contents.subset names requests = d.subset names requests
  := by
  have hattributes : d.contents.variableAttributes = d.variableAttributes := by
    funext name
    simp only [variableAttributes, ownerOf, getD_children_contents, bind_assoc, pure_bind]
    rfl
  simp only [subset, data_contents, hattributes]
  rfl

theorem subset_detached [Machine] (d : Dataset) (names : List String) (requests : List Request) :
  d.detached.subset names requests = d.subset names requests
  := by
  rw [← subset_contents, ← subset_contents d, contents, contents, detached_detached]

/-- Two datasets have the same contents: the same merged axis and index maps, the same variables and
owners, children that differ in their origins at most; and they give the same data. -/
structure SameContents [Machine] (d d' : Dataset) : Prop where
  id_eq : d'.id = d.id
  title_eq : d'.title = d.title
  children_eq : d'.children.map Child.detached = d.children.map Child.detached
  union_eq : d'.union = d.union
  owners_eq : d'.owners = d.owners
  data_eq : ∀ names requests, d'.data names requests = d.data names requests
  subset_eq : ∀ names requests, d'.subset names requests = d.subset names requests

theorem sameContents_of_contents_eq [Machine] {d d' : Dataset} (h : d'.contents = d.contents) :
  d.SameContents d'
  := by
  obtain ⟨hid, hfirst, hrest, howners, hunion, htitle⟩ :
      d'.id = d.id ∧ d'.first.detached = d.first.detached
        ∧ d'.rest.map Child.detached = d.rest.map Child.detached ∧ d'.owners = d.owners
        ∧ d'.union = d.union ∧ d'.title = d.title := by
    simpa [contents, detached] using h
  constructor
  · exact hid
  · exact htitle
  · rw [children, children, List.map_cons, List.map_cons, hfirst, hrest]
  · exact hunion
  · exact howners
  · intro names requests
    rw [← data_contents, h, data_contents]
  · intro names requests
    rw [← subset_contents, h, subset_contents]

end Dataset

end GridUnion
