import GridUnion.Gallery
import GridUnion.Proofs.Axis.Orders
import GridUnion.Proofs.Dataset.Refused
import GridUnion.Proofs.Dataset.Subset
import GridUnion.Proofs.Dataset.Whole

/-!
# Maps

A map is drawn of one row of a variable, or nothing is drawn.  A dataset has maps if its dimensions
after the merged one are a latitude and a longitude; what is drawn are then the elements of the row
that the owner of the variable has at the merged position, or what stands for missing data in the
variable if the owner has no row there.
-/

namespace GridUnion

/-! ### One row of a block -/

theorem Request.rows_single (m : IndexMap) (i : Int) :
  (⟨i, 1, i⟩ : Request).rows m = [m.toList.getD i.toNat none]
  := by
  simp [rows_eq_map, length, position]

namespace Dataset

open Block (IsIndex)
open Request (AllValid)

/-- The first row of a field has the elements that the field has there. -/
theorem sliceField_block {f : Field} {n : Nat} {sizes : List Nat}
    (hshape : f.block.shape = (n + 1) :: sizes) :
  (sliceField f).block.type = f.block.type ∧ (sliceField f).block.shape = sizes
    ∧ ∀ ix, IsIndex sizes ix → (sliceField f).block.get ix = f.block.get (0 :: ix)
  := by
  have hlength : (f.block.data.take sizes.prod).length = sizes.prod := by
    rw [List.length_take, f.block.size_eq, hshape, List.prod_cons]
    exact Nat.min_eq_left (Nat.le_mul_of_pos_left _ n.succ_pos)
  have hslice : (sliceField f).block = ⟨f.block.type, sizes, f.block.data.take sizes.prod, hlength⟩ := by
    simp [sliceField, hshape, Block.ofData?, hlength]
  rw [hslice]
  refine ⟨rfl, rfl, ?_⟩
  intro ix hix
  have hlt := Block.offset_lt_prod hix
  simp [Block.get, Block.offset, hshape, List.getD_eq_getElem?_getD, List.getElem?_take_of_lt hlt]

/-! ### Dimensions of a map -/

/-- The dimensions after the merged one are a latitude and a longitude of the given sizes. -/
structure IsMap (d : Dataset) (lat lon : String) (m n : Nat) : Prop where
  axes_eq : d.axes = [d.first.axis, lat, lon]
  shape_eq : d.shape = [d.union.size, m, n]
  isLatitude : lat.toLower ∈ latitudeNames
  isLongitude : lon.toLower ∈ longitudeNames

theorem mapShape?_eq_some_iff {d : Dataset} {m n : Nat} :
  d.mapShape? = some (m, n) ↔ ∃ lat lon, d.IsMap lat lon m n
  := by
  have hothers (lat lon : String) :
      d.axes = [d.first.axis, lat, lon] ↔ d.first.others = [lat, lon] := by
    simp [axes, Child.axes]
  have hshape : d.shape = d.union.size :: d.first.shape.drop 1 := rfl
  constructor
  · intro h
    unfold mapShape? at h
    split at h
    · next lat lon size m' n' hdims hsizes =>
      split at h
      · next hnames =>
        obtain ⟨rfl, rfl⟩ := Prod.mk.inj (Option.some.inj h)
        obtain ⟨rfl, -⟩ := List.cons.inj (hshape.symm.trans hsizes)
        simp only [List.contains_iff_mem] at hnames
        exact ⟨lat, lon, (hothers lat lon).mpr hdims, hsizes, hnames.1, hnames.2⟩
      · cases h
    · cases h
  · rintro ⟨lat, lon, haxes, hsizes, hlat, hlon⟩
    simp [mapShape?, (hothers lat lon).mp haxes, hsizes, hlat, hlon]

/-- The requests for one position of the merged axis and all of the other dimensions. -/
def mapRequests (index : Int) (sizes : List Nat) : List Request :=
  ⟨index, 1, index⟩ :: sizes.map Request.whole

theorem allValid_mapRequests_iff {index : Int} {size : Nat} {sizes : List Nat} :
  AllValid (size :: sizes) (mapRequests index sizes)
    ↔ 0 ≤ index ∧ index < size ∧ ∀ n ∈ sizes, 0 < n
  := by
  have hsizes : AllValid sizes (sizes.map Request.whole) ↔ ∀ n ∈ sizes, 0 < n := by
    constructor
    · intro h n hn
      rw [AllValid, List.forall₂_map_right_iff, List.forall₂_same] at h
      obtain ⟨-, hstart, hle, hlt⟩ := h n hn
      omega
    · apply Request.allValid_whole
  rw [mapRequests, AllValid, List.forall₂_cons, ← AllValid, hsizes, Request.Valid]
  simp [and_assoc]

/-- A row of a variable can be drawn as a map: the dataset has maps, the position is one of the merged
axis, and the latitude and the longitude are not empty. -/
structure HasMap (d : Dataset) (name : String) (index : Int) (lat lon : String) (m n : Nat) : Prop
    where
  isMap : d.IsMap lat lon m n
  index_nonneg : 0 ≤ index
  index_lt : index < d.union.size
  height_pos : 0 < m
  width_pos : 0 < n
  mem : name ∈ d.variableNames

theorem HasMap.allValid {d : Dataset} {name : String} {index : Int} {lat lon : String} {m n : Nat}
    (h : d.HasMap name index lat lon m n) :
  AllValid d.shape (mapRequests index [m, n])
  := by
  rw [h.isMap.shape_eq]
  apply allValid_mapRequests_iff.mpr
  simpa using ⟨h.index_nonneg, h.index_lt, h.height_pos, h.width_pos⟩

theorem HasMap.toNat_lt {d : Dataset} {name : String} {index : Int} {lat lon : String} {m n : Nat}
    (h : d.HasMap name index lat lon m n) :
  index.toNat < d.union.size
  := by
  have := h.index_nonneg
  have := h.index_lt
  omega

/-! ### The drawing of a map -/

variable {d : Dataset} {name : String} {index : Int} {levels : Value} {path : Option Value}
  {coastlines : Bool}

/-- The commands that draw a field as a map of a variable. -/
def mapDrawing (d : Dataset) (name : String) (field : Field) (levels : Value) (path : Option Value)
    (coastlines : Bool) : Drawing :=
  [.newFigure, .currentFigure, .setSize (.int 16) (.int 9), .map field levels] ++
    (if coastlines then [.coastlines] else []) ++
    [.title (d.id.formatted ++ " " ++ name)] ++ finish path

theorem getLast?_mapDrawing (field : Field) :
  (d.mapDrawing name field levels path coastlines).getLast? = some .closeAll
  := by
  rw [mapDrawing, List.getLast?_append]
  rfl

/-- A dataset with maps draws the first row of an extract at the position. -/
theorem result_drawMap_of_isMap [Machine] {lat lon : String} {m n : Nat} (h : d.IsMap lat lon m n) :
  (d.drawMap name index levels path coastlines).result
    = (d.subset [name] (mapRequests index [m, n])).result.map fun g =>
        d.mapDrawing name (sliceField ((g.field? name).getD default)) levels path coastlines
  := by
  have hshape := mapShape?_eq_some_iff.mpr ⟨lat, lon, h⟩
  have hrequests : mapRequests index [m, n]
      = [⟨index, 1, index⟩, ⟨0, 1, (m : Int) - 1⟩, ⟨0, 1, (n : Int) - 1⟩] := rfl
  simp only [drawMap, hshape, Noted.result_bind, hrequests]
  rcases (d.subset [name] _).result with e | g
  · rfl
  · rfl

theorem result_drawMap_of_not_isMap [Machine] (h : ¬ ∃ lat lon m n, d.IsMap lat lon m n) :
  (d.drawMap name index levels path coastlines).result = .error (.noMap d.axes)
  := by
  have hshape : d.mapShape? = none := by
    rw [Option.eq_none_iff_forall_ne_some]
    rintro ⟨m, n⟩ hsome
    obtain ⟨lat, lon, hmap⟩ := mapShape?_eq_some_iff.mp hsome
    exact h ⟨lat, lon, m, n, hmap⟩
  simp only [drawMap, hshape]
  rfl

/-- Where no map can be drawn the request is refused, by its values or by the name of the variable. -/
theorem exists_error_of_not_hasMap [Machine] {children : List Child} {blocks : List Block}
    (h : d.Joins children blocks) (hbuilt : ∀ c ∈ children, c.IsBuilt)
    (hno : ¬ ∃ lat lon m n, d.HasMap name index lat lon m n) :
  ∃ f, (d.drawMap name index levels path coastlines).result = .error f
    ∧ (f.kind = .value ∨ f.kind = .key)
  := by
  by_cases hmap : ∃ lat lon m n, d.IsMap lat lon m n
  · obtain ⟨lat, lon, m, n, hmap⟩ := hmap
    rw [result_drawMap_of_isMap hmap]
    by_cases hvalid : AllValid d.shape (mapRequests index [m, n])
    · -- Then the variable is unknown.
      have hunknown : name ∉ d.variableNames := by
        intro hname
        rw [hmap.shape_eq, allValid_mapRequests_iff] at hvalid
        obtain ⟨hnonneg, hlt, hsizes⟩ := hvalid
        exact hno ⟨lat, lon, m, n, hmap, hnonneg, hlt, hsizes m (by simp), hsizes n (by simp), hname⟩
      have hfirst : d.IsFirstUnknown [name] name := ⟨[], [], rfl, by simp, hunknown⟩
      have hdata := h.data_of_isFirstUnknown hbuilt hvalid hfirst (by simp [hunknown])
      have hsubset := subset_of_data_eq_error hdata
      refine ⟨_, by rw [mapRequests, hsubset]; rfl, ?_⟩
      right
      rfl
    · obtain ⟨e, he, hdata⟩ := data_of_not_allValid hvalid [name]
      have hsubset := subset_of_data_eq_error hdata
      refine ⟨e, by rw [hsubset]; rfl, ?_⟩
      left
      exact he.kind_eq
  · refine ⟨_, result_drawMap_of_not_isMap hmap, ?_⟩
    left
    rfl

/-! ### The row that is drawn -/

/-- A block holds one row of a field, or what stands for missing data in the field. -/
structure IsSlice (f : Field) (row? : Option Nat) (sizes : List Nat) (b : Block) : Prop where
  type_eq : b.type = f.block.type
  shape_eq : b.shape = sizes
  get_eq : ∀ row, row? = some row → ∀ ix, IsIndex sizes ix → b.get ix = f.block.get (row :: ix)
  holdsFill : row? = none → Fetch.HoldsFill (Child.fillOf f) f.block.type sizes b.get

/-- A child has a row at a position of the merged axis, or none.  The value of its row is equal to the
one that is stored at the position; and if the axes are in one order, it has a row wherever it has an
equal value. -/
structure HasRowAt (d : Dataset) (c : Child) (map : IndexMap) (i : Nat) (row? : Option Nat) : Prop where
  row_eq : map.toList[i]? = some (row?.map Int.ofNat)
  exists_value : ∃ line v e, c.mergeValues = .ok line ∧ d.union.axis.data[i]? = some e
    ∧ v.store d.union.axis.type = .ok e
    ∧ (∀ row, row? = some row → ∃ s, (Axis.values line)[row]? = some s ∧ s.equals v)
    ∧ ∀ axes, d.children.mapM Child.mergeValues = .ok axes → Axis.InOneOrder axes →
        row? = (Axis.values line).findIdx? fun s => s.equals v

section Row

variable {children : List Child} {blocks : List Block} (h : d.Joins children blocks) {c : Child}
  {f : Field} {map : IndexMap} (hown : d.Owns name c f map) {i : Nat} (hi : i < d.union.size)

include h hown hi

theorem Joins.exists_hasRowAt :
  ∃ row?, d.HasRowAt c map i row?
  := by
  obtain ⟨k, -, hc, hm⟩ := hown.exists_number
  rw [h.children_eq] at hc
  obtain ⟨line, hblock, hline⟩ := h.getElem?_blocks hc
  obtain ⟨v, e, row?, he, hstore, hrow, hvalue, hplace⟩ :=
    Axis.exists_value_of_merge h.union_eq hblock hm hi
  refine ⟨row?, hrow, line, v, e, hline, he, hstore, hvalue, ?_⟩
  intro axes haxes horder
  rw [h.children_eq, h.axes_eq] at haxes
  obtain rfl := Except.ok.inj haxes
  exact hplace horder

/-- Over strictly ascending integers the row is the place of the merged value. -/
theorem Joins.row_eq_idxOf? {type : ElementType} (htype : type.isInteger) {lists : List (List Int)}
    (hblocks : blocks = lists.map (Block.ofInts type))
    (hsorted : ∀ xs ∈ lists, xs.Pairwise (· < ·)) {row? : Option Nat}
    (hrow : d.HasRowAt c map i row?) :
  ∃ xs value, c.mergeValues = .ok (Block.ofInts type xs)
    ∧ d.union.axis.data[i]? = some (.int value) ∧ row? = xs.idxOf? value
  := by
  subst hblocks
  obtain ⟨k, -, hc, hm⟩ := hown.exists_number
  rw [h.children_eq] at hc
  obtain ⟨line, hblock, hline⟩ := h.getElem?_blocks hc
  obtain ⟨xs, hxs, rfl⟩ : ∃ xs, lists[k]? = some xs ∧ Block.ofInts type xs = line := by
    simpa using hblock
  obtain ⟨haxis, hmaps⟩ := h.union_eq_sortedUnion htype hsorted
  obtain rfl : IndexMap.places (Axis.sortedUnion lists) xs = map := by
    simpa [hmaps, hxs] using hm
  have hlt : i < (Axis.sortedUnion lists).length := by
    simpa [AxisUnion.size, haxis, Block.ofInts, Block.ofList] using hi
  have hvalue := List.getElem?_eq_getElem hlt
  have hplace := @IndexMap.getElem?_toList_places _ xs _ _ hvalue
  use xs, (Axis.sortedUnion lists)[i], hline
  constructor
  · simp [haxis, Block.ofInts, Block.ofList, hvalue]
  · have heq := Option.some.inj (hrow.row_eq.symm.trans hplace)
    exact Option.map_injective (fun _ _ => Int.ofNat.inj) heq

end Row

section Slice

variable {children : List Child} {blocks : List Block} (h : d.Joins children blocks)
  (hregular : ∀ c ∈ children, c.IsRegular) {c : Child} {f : Field} {map : IndexMap}
  (hown : d.Owns name c f map) {sizes : List Nat}
  (hvalid : AllValid d.shape (mapRequests index sizes))

include h hregular hown hvalid

/-- What is read of a variable at one position of the merged axis and all of the others. -/
theorem Joins.isSlice_of_variableData [Machine]
    (hroom : Fetch.HasRoom f.block.type ((mapRequests index sizes).map Request.length))
    {row? : Option Nat} (hrow : d.HasRowAt c map index.toNat row?) (field : Field)
    (hb : (d.variableData name ⟨index, 1, index⟩ (sizes.map Request.whole)).result = .ok field.block) :
  IsSlice f row? sizes (sliceField field).block
  := by
  obtain ⟨k, hk, hc, hm⟩ := hown.exists_number
  rw [h.children_eq] at hc
  obtain ⟨hmerged, -⟩ := List.forall₂_cons.mp hvalid
  rw [← h.size_eq_of_owns hown] at hmerged
  have hsizes : (sizes.map Request.whole).map Request.length = sizes := by
    simp [Function.comp_def]
  have hrows : (⟨index, 1, index⟩ : Request).rows map = [row?.map Int.ofNat] := by
    rw [Request.rows_single, List.getD_eq_getElem?_getD, hrow.row_eq, Option.getD_some]
  have hgaps := (hown.variableData_hasGaps hmerged (sizes.map Request.whole)).2 _ hb
  rw [hrows, hsizes] at hgaps
  obtain ⟨htype, hshape, hget⟩ := sliceField_block hgaps.shape_eq
  constructor
  · rw [htype, hgaps.type_eq]
  · exact hshape
  · rintro row rfl ix hix
    -- The row is there, so no blank is asked for.
    have hblank : none ∈ (⟨index, 1, index⟩ : Request).rows map →
        (Child.fillOf f).scalar?.isSome ∧ (Child.fillOf f).store f.block.type = .ok default := by
      simp [hrows]
    have hstack := h.variableData_eq_stack hk hc hm hown.field_eq hown.dims_eq hown.shape_eq hregular
      hblank hvalid hroom
    have hblock := Except.ok.inj (hb.symm.trans hstack)
    rw [hget ix hix, hblock, hrows, hsizes, Block.get_stack rfl hix]
    exact congrArg (fun ix => f.block.get (row :: ix)) (Block.through_whole hix)
  · rintro rfl
    apply (hgaps.holdsFill 0 rfl).congr
    intro ix hix
    exact hget ix hix

end Slice

/-- Where a map can be drawn of a variable of regular children, its row is drawn. -/
theorem Joins.exists_drawMap [Machine] {children : List Child} {blocks : List Block}
    (h : d.Joins children blocks) (hbuilt : ∀ c ∈ children, c.IsBuilt)
    (hregular : ∀ c ∈ children, c.IsRegular) {lat lon : String} {m n : Nat}
    (hmap : d.HasMap name index lat lon m n)
    (hanswers : d.HasAnswers [name] (mapRequests index [m, n]))
    (hcoordinates : d.HasCoordinates (mapRequests index [m, n])) :
  ∃ c f map row? b attributes, d.Owns name c f map ∧ d.HasRowAt c map index.toNat row?
    ∧ IsSlice f row? [m, n] b
    ∧ (d.drawMap name index levels path coastlines).result
      = .ok (d.mapDrawing name ⟨name, [lat, lon], b, attributes, []⟩ levels path coastlines)
  := by
  have hvalid := hmap.allValid
  have hname := List.mem_singleton_self name
  obtain ⟨c, f, map, hown⟩ := h.exists_owns hbuilt hmap.mem
  obtain ⟨row?, hrow⟩ := h.exists_hasRowAt hown hmap.toNat_lt
  obtain ⟨-, hroom⟩ := hanswers name hname c f map hown
  have hdata : ∃ answer, (d.data [name] (mapRequests index [m, n])).result = .ok answer := by
    apply (h.exists_data_iff hbuilt hvalid [name]).mpr
    intro v hv
    obtain rfl := List.mem_singleton.mp hv
    apply h.canRead hbuilt hvalid hregular hanswers hv hmap.mem
  obtain ⟨answer, hanswer⟩ := hdata
  obtain ⟨g, hg⟩ : ∃ g, (d.subset [name] (mapRequests index [m, n])).result = .ok g :=
    h.exists_subset_of_hasCoordinates hbuilt hregular hvalid hcoordinates hanswer
  obtain ⟨answer', attributes, hanswer', hfield⟩ := field?_of_subset hg
  obtain rfl := Except.ok.inj (hanswer.symm.trans hanswer')
  obtain ⟨b, hb, hlookup⟩ := (h.lookup_of_data hbuilt hvalid hanswer).1 name hname
  rw [hlookup, Option.getD_some] at hfield
  have hslice := h.isSlice_of_variableData hregular hown hvalid hroom hrow
    ⟨name, d.axes, b, attributes, []⟩ hb
  refine ⟨c, f, map, row?, _, attributes, hown, hrow, hslice, ?_⟩
  rw [result_drawMap_of_isMap hmap.isMap, hg]
  simp only [Except.map, hfield, Option.getD_some, sliceField, hmap.isMap.axes_eq]
  rfl

/-- Draws a map. -/
def putMap [Machine] (d : Dataset) (name : String) (index : Int) (levels : Value)
    (path : Option Value) (coastlines : Bool) : Action Unit := do
  Action.draw (← Action.ofNoted (d.drawMap name index levels path coastlines))

/-- All of a map is drawn or nothing. -/
theorem drawn_putMap [Machine] (s : Session) :
  (d.putMap name index levels path coastlines s).2.drawn
    = s.drawn ++ ((d.drawMap name index levels path coastlines).result.toOption.getD [])
  := by
  rw [putMap, Action.bind_apply, Action.ofNoted]
  rcases (d.drawMap name index levels path coastlines).result with e | drawing
  · simp [Except.toOption]
  · rfl

theorem drawn_print [Machine] (text : String) (s : Session) :
  (Action.print text s).2.drawn = s.drawn
  := by
  rw [Action.print]
  rcases Machine.refusal? text with _ | reason
  · rfl
  · rfl

/-- The same holds for a variable in the gallery, whether a failure is printed or passed on. -/
theorem drawn_drawVariable [Machine] (figures : Path) (id : String) (last : Int) (s : Session) :
  let path := Gallery.drawingPath figures (id ++ "_" ++ name ++ "_" ++ toString last)
  (Gallery.drawVariable figures id d last name s).2.drawn
    = s.drawn ++ ((d.drawMap name last Gallery.contourLevels (some (.text path)) true).result.toOption.getD
        [])
  := by
  intro path
  rw [Gallery.drawVariable, Action.bind_apply, Action.attempt, Action.ofNoted]
  rcases (d.drawMap name last Gallery.contourLevels (some (.text path)) true).result with e | drawing
  · by_cases hvalue : e.kind.isValue
    · simp [hvalue, drawn_print, Except.toOption]
    · simp [hvalue, Action.fail, Except.toOption]
  · rfl

/-- A map is drawn of one row of a variable, or nothing is drawn.  If the dataset has no maps, the
position is not one of the merged axis, the latitude or the longitude is empty, or no variable has the
name, the request is refused as a wrong value or an unknown name.  Otherwise, for regular children, the
elements of the row that the owner has there are drawn, or else what stands for missing data, and then
all figures are closed.  If the axes are in one order, the owner has a row there exactly if it has the
merged value. -/
theorem drawMap_row [Machine] {id title : Value} {children : List Child}
    (h : (build id children title).result = .ok d) (hbuilt : ∀ c ∈ children, c.IsBuilt) (name : String)
    (index : Int) (levels : Value) (path : Option Value) (coastlines : Bool) :
  (∀ s, (d.putMap name index levels path coastlines s).2.drawn
      = s.drawn ++ ((d.drawMap name index levels path coastlines).result.toOption.getD []))
    ∧ ((¬ ∃ lat lon m n, d.HasMap name index lat lon m n) →
        ∃ f, (d.drawMap name index levels path coastlines).result = .error f
          ∧ (f.kind = .value ∨ f.kind = .key))
    ∧ ∀ lat lon m n, d.HasMap name index lat lon m n → (∀ c ∈ children, c.IsRegular) →
        d.HasAnswers [name] (mapRequests index [m, n]) →
        d.HasCoordinates (mapRequests index [m, n]) →
        ∃ c f map row? b attributes drawing, d.Owns name c f map ∧ d.HasRowAt c map index.toNat row?
          ∧ IsSlice f row? [m, n] b
          ∧ (d.drawMap name index levels path coastlines).result = .ok drawing
          ∧ drawing = d.mapDrawing name ⟨name, [lat, lon], b, attributes, []⟩ levels path coastlines
          ∧ drawing.getLast? = some .closeAll
          ∧ ∀ (type : ElementType) (lists : List (List Int)), type.isInteger →
              children.mapM Child.mergeValues = .ok (lists.map (Block.ofInts type)) →
              (∀ xs ∈ lists, xs.Pairwise (· < ·)) →
              ∃ xs value, c.mergeValues = .ok (Block.ofInts type xs)
                ∧ d.union.axis.data[index.toNat]? = some (.int value) ∧ row? = xs.idxOf? value
  := by
  obtain ⟨blocks, hjoins⟩ := joins_of_build h
  refine ⟨drawn_putMap, exists_error_of_not_hasMap hjoins hbuilt, ?_⟩
  intro lat lon m n hmap hregular hanswers hcoordinates
  obtain ⟨c, f, map, row?, b, attributes, hown, hrow, hslice, hdrawing⟩ :=
    hjoins.exists_drawMap hbuilt hregular hmap hanswers hcoordinates
  refine ⟨c, f, map, row?, b, attributes, _, hown, hrow, hslice, hdrawing, rfl,
    getLast?_mapDrawing _, ?_⟩
  intro type lists htype hlists hsorted
  apply hjoins.row_eq_idxOf? hown hmap.toNat_lt htype _ hsorted hrow
  exact Except.ok.inj (hjoins.axes_eq.symm.trans hlists)

/-! ### Small maps -/

/-- The values of dimensions can be coordinates if it is found that they can. -/
theorem hasCoordinates_of_all {requests : List Request}
    (h : ∀ p ∈ d.axes.zip requests,
      ((d.axisData p.1 p.2).toOption.bind fun b => (d.coordinate p.1 b).toOption).isSome) :
  d.HasCoordinates requests
  := by
  intro p hp b hb
  have hsome := h p hp
  rw [hb] at hsome
  obtain ⟨f, hf⟩ := Option.isSome_iff_exists.mp hsome
  exact ⟨f, eq_ok_of_toOption hf⟩

theorem Owns.getElem?_of_owner {v : String} {c : Child} {f : Field} {map : IndexMap}
    (h : d.Owns v c f map) {k : Nat} (hk : d.owner v = .ok k) :
  d.children[k]? = some c ∧ d.union.maps[k]? = some map
  := by
  obtain ⟨k', hk', hc, hm⟩ := h.exists_number
  obtain rfl := Except.ok.inj (hk.symm.trans hk')
  exact ⟨hc, hm⟩

/-- A dataset can answer for one variable if the owner's field can. -/
theorem hasAnswers_of_owner [Machine] {v : String} {k : Nat} {c : Child} {f : Field}
    {requests : List Request} (hk : d.owner v = .ok k) (hc : d.children[k]? = some c)
    (hf : c.grid.field? v = some f) {blank : Block}
    (hblank : Block.fill f.block.type [] (Child.fillOf f) = .ok blank)
    (hroom : Fetch.HasRoom f.block.type (requests.map Request.length)) :
  d.HasAnswers [v] requests
  := by
  intro w hw c' f' map hown
  obtain rfl := List.mem_singleton.mp hw
  obtain ⟨hc', -⟩ := hown.getElem?_of_owner hk
  obtain rfl := Option.some.inj (hc.symm.trans hc')
  obtain rfl := Option.some.inj (hf.symm.trans hown.field_eq)
  exact ⟨⟨blank, hblank⟩, hroom⟩

/-- A child of one variable over a merged axis `t` with one coordinate. -/
def sheetChild (coordinate : Field) (name lat lon : String) (b : Block) : Child where
  grid := ⟨[coordinate], [⟨name, ["t", lat, lon], b, [], []⟩], []⟩
  name := .null
  source := .null
  axis := "t"
  others := [lat, lon]
  origin := .memory 0

theorem isBuilt_sheetChild {coordinate : Field} {name lat lon : String} {b : Block}
    (h : Grid.ofFields [coordinate] [⟨name, ["t", lat, lon], b, [], []⟩] []
      = .ok (sheetChild coordinate name lat lon b).grid) :
  (sheetChild coordinate name lat lon b).IsBuilt
  := ⟨⟨_, _, _, h⟩, .null, rfl⟩

/-- Elements that say at which row and latitude they are. -/
def sheet (rows : Nat) : Block :=
  Block.tabulate .int64 [rows, 2, 1] fun ix => .int (10 * ix.getD 0 0 + ix.getD 1 0)

/-- Two children side by side along `t`. -/
def sheets : Dataset where
  id := .null
  first := sheetChild (lineField "t" "t" [1, 3]) "v" "Lat" "LONGITUDE" (sheet 2)
  rest := [sheetChild (lineField "t" "t" [2]) "w" "Lat" "LONGITUDE" (sheet 1)]
  owners := [("v", 0), ("w", 1)]
  union := ⟨[2, 1], Block.ofInts .int64 [1, 2, 3],
    [IndexMap.ofRows [some 0, none, some 1], IndexMap.ofRows [none, some 0, none]]⟩
  title := .null
  warnings := []

theorem isBuilt_of_mem_sheets :
  ∀ c ∈ sheets.children, c.IsBuilt
  := by
  intro c hc
  simp only [children, sheets, List.mem_cons, List.not_mem_nil, or_false] at hc
  rcases hc with rfl | rfl
  · exact isBuilt_sheetChild rfl
  · exact isBuilt_sheetChild rfl

theorem isRegular_of_mem_sheets :
  ∀ c ∈ sheets.children, c.IsRegular
  := by
  have hsheets : ∀ c ∈ sheets.children, c.axes.Nodup ∧ ∀ dim ∈ c.axes,
      (c.grid.values dim).toOption.map Block.shape = some [(c.grid.size? dim).getD 0] := by
    decide
  intro c hc
  obtain ⟨hnodup, hshape⟩ := hsheets c hc
  use hnodup
  intro dim hdim b hb
  simpa [hb, Except.toOption] using hshape dim hdim

theorem hasMap_sheets {index : Int} (hnonneg : 0 ≤ index) (hlt : index < 3) :
  sheets.HasMap "v" index "Lat" "LONGITUDE" 2 1
  := by
  refine ⟨⟨rfl, rfl, ?_, ?_⟩, hnonneg, hlt, by decide, by decide, by decide⟩
  · decide +kernel
  · decide +kernel

theorem hasAnswers_sheets (index : Int) :
  sheets.HasAnswers ["v"] (mapRequests index [2, 1])
  := by
  apply hasAnswers_of_owner rfl rfl rfl rfl
  have hlengths : (mapRequests index [2, 1]).map Request.length = [1, 2, 1] := by
    simp [mapRequests, Request.length, Request.whole]
  rw [hlengths]
  constructor <;> decide

/-- The second row of the first child is drawn at the last of the merged values 1, 2 and 3, and what
stands for missing data at the second of them; after the last there is nothing to draw. -/
theorem drawMap_row_sheets :
  ∃ field field' e, (build .null sheets.children .null).result = .ok sheets
    ∧ (sheets.drawMap "v" 2 .null none true).result
      = .ok (sheets.mapDrawing "v" field .null none true)
    ∧ field.dims = ["Lat", "LONGITUDE"] ∧ field.block.get [1, 0] = .int 11
    ∧ (sheets.drawMap "v" 1 .null none true).result
      = .ok (sheets.mapDrawing "v" field' .null none true)
    ∧ field'.block.get [1, 0] = .int (2 ^ 63 - 1)
    ∧ (sheets.drawMap "v" 3 .null none true).result = .error e
  := by
  have hbuild : (build .null sheets.children .null).result = .ok sheets := rfl
  have hindex : IsIndex [2, 1] [1, 0] := .cons (by decide) (.cons (by decide) .nil)
  have hrefused : ¬ ∃ lat lon m n, sheets.HasMap "v" 3 lat lon m n := by
    rintro ⟨_, _, _, _, hmap⟩
    exact absurd hmap.index_lt (by decide)
  obtain ⟨-, hnone, -⟩ := drawMap_row hbuild isBuilt_of_mem_sheets "v" 3 .null none true
  obtain ⟨e, he, -⟩ := hnone hrefused
  obtain ⟨c, f, map, row?, b, _, _, hown, hrow, hslice, hdraw, rfl, -, -⟩ :=
    (drawMap_row hbuild isBuilt_of_mem_sheets "v" 2 .null none true).2.2 _ _ _ _
      (hasMap_sheets (by decide) (by decide)) isRegular_of_mem_sheets (hasAnswers_sheets 2)
      (hasCoordinates_of_all (by decide))
  obtain ⟨c', f', map', row?', b', _, _, hown', hrow', hslice', hdraw', rfl, -, -⟩ :=
    (drawMap_row hbuild isBuilt_of_mem_sheets "v" 1 .null none true).2.2 _ _ _ _
      (hasMap_sheets (by decide) (by decide)) isRegular_of_mem_sheets (hasAnswers_sheets 1)
      (hasCoordinates_of_all (by decide))
  obtain ⟨hc, hm⟩ := hown.getElem?_of_owner rfl
  obtain rfl := Option.some.inj hc
  obtain rfl := Option.some.inj hm
  obtain rfl := Option.some.inj hown.field_eq
  obtain ⟨hc', hm'⟩ := hown'.getElem?_of_owner rfl
  obtain rfl := Option.some.inj hc'
  obtain rfl := Option.some.inj hm'
  obtain rfl := Option.some.inj hown'.field_eq
  have hpresent : row? = some 1 :=
    Option.map_injective (fun _ _ => Int.ofNat.inj) (Option.some.inj hrow.row_eq).symm
  have habsent : row?' = none :=
    Option.map_injective (fun _ _ => Int.ofNat.inj) (Option.some.inj hrow'.row_eq).symm
  obtain ⟨blank, hblank, hcell⟩ := hslice'.holdsFill habsent
  obtain rfl := Except.ok.inj hblank
  exact ⟨_, _, e, hbuild, hdraw, rfl, hslice.get_eq 1 hpresent [1, 0] hindex, hdraw',
    hcell [1, 0] hindex, he⟩

/-- A map of a variable cannot be drawn although the dataset has it, what stands for missing data can
be stored, and there is room. -/
def FailsToDraw [Machine] (d : Dataset) (name : String) (index : Int) : Prop :=
  (build .null d.children .null).result = .ok d ∧ (∀ c ∈ d.children, c.IsBuilt)
    ∧ ∃ lat lon m n failure, d.HasMap name index lat lon m n
      ∧ d.HasAnswers [name] (mapRequests index [m, n])
      ∧ (d.drawMap name index .null none true).result = .error failure

theorem failsToDraw_of_subset [Machine] (hd : (build .null d.children .null).result = .ok d)
    (hbuilt : ∀ c ∈ d.children, c.IsBuilt) {lat lon : String} {m n : Nat}
    (hmap : d.HasMap name index lat lon m n)
    (hanswers : d.HasAnswers [name] (mapRequests index [m, n])) {failure : Failure}
    (hsubset : (d.subset [name] (mapRequests index [m, n])).result = .error failure) :
  d.FailsToDraw name index
  := by
  refine ⟨hd, hbuilt, lat, lon, m, n, failure, hmap, hanswers, ?_⟩
  rw [result_drawMap_of_isMap hmap.isMap, hsubset]
  rfl

/-- A child with more values of its merged axis, which run along the latitude, than rows. -/
def strayTimes : Dataset where
  id := .null
  first := sheetChild (lineField "t" "lat" [1, 2, 3]) "v" "lat" "lon"
    (Block.replicate .int64 [2, 3, 1] (.int 7))
  rest := []
  owners := [("v", 0)]
  union := ⟨[3], Block.ofInts .int64 [1, 2, 3], [IndexMap.ofRows [some 0, some 1, some 2]]⟩
  title := .null
  warnings := []

/-- A child without times, beside one that has a letter for a time. -/
def timesAndLetter : Dataset where
  id := .null
  first := sheetChild ⟨"t", ["t"], Block.ofList .nanoseconds [], [], []⟩ "w" "lat" "lon"
    (Block.replicate .int64 [0, 1, 1] (.int 7))
  rest := [sheetChild ⟨"t", ["t"], Block.ofList (.text 1) [.text "a"], [], []⟩ "v" "lat" "lon"
    (Block.replicate .int64 [1, 1, 1] (.int 7))]
  owners := [("w", 0), ("v", 1)]
  union := ⟨[0, 1], Block.ofList (.text 21) [.text "a"],
    [IndexMap.ofRows [none], IndexMap.ofRows [some 0]]⟩
  title := .null
  warnings := []

/-- Rows that are not there cannot be drawn, nor those at times that are letters. -/
theorem failsToDraw_irregular :
  strayTimes.FailsToDraw "v" 2 ∧ timesAndLetter.FailsToDraw "v" 0
  := by
  constructor
  · have hbuilt : ∀ c ∈ strayTimes.children, c.IsBuilt := by
      intro c hc
      obtain rfl := List.mem_singleton.mp hc
      exact isBuilt_sheetChild rfl
    have hmap : strayTimes.IsMap "lat" "lon" 3 1 :=
      ⟨rfl, rfl, by decide +kernel, by decide +kernel⟩
    have hanswers : strayTimes.HasAnswers ["v"] (mapRequests 2 [3, 1]) := by
      apply hasAnswers_of_owner rfl rfl rfl rfl
      constructor <;> decide
    apply failsToDraw_of_subset rfl hbuilt ⟨hmap, by decide, by decide, by decide, by decide, by decide⟩
      hanswers
    rfl
  · have hbuilt : ∀ c ∈ timesAndLetter.children, c.IsBuilt := by
      intro c hc
      simp only [children, timesAndLetter, List.mem_cons, List.not_mem_nil, or_false] at hc
      rcases hc with rfl | rfl
      · exact isBuilt_sheetChild rfl
      · exact isBuilt_sheetChild rfl
    have hmap : timesAndLetter.IsMap "lat" "lon" 1 1 :=
      ⟨rfl, rfl, by decide +kernel, by decide +kernel⟩
    have hanswers : timesAndLetter.HasAnswers ["v"] (mapRequests 0 [1, 1]) := by
      apply hasAnswers_of_owner rfl rfl rfl rfl
      constructor <;> decide
    apply failsToDraw_of_subset rfl hbuilt ⟨hmap, by decide, by decide, by decide, by decide, by decide⟩
      hanswers
    rfl

end Dataset

end GridUnion
