import GridUnion.Proofs.CommandLine.Extract
import GridUnion.Proofs.CommandLine.Loading
import GridUnion.Proofs.Dataset.Coverage
import GridUnion.Proofs.Dataset.Refused
import GridUnion.Proofs.Dataset.Subset

/-!
# Exit codes

A command fails in few ways, and each is either the user's to mend, which the exit code says, or is
passed on.  What is passed on is told apart here: that there is no catalogue to be read, or that a
dataset cannot do what the command asks of it although it was loaded.
-/

namespace GridUnion

namespace CommandLine

variable {s : Session} {command : Command}

/-! ### Descriptions of a registry -/

section Failures

variable [Machine]

/-- What becomes of a text that is printed. -/
def shown (text : String) : Except Failure Unit :=
  match Machine.refusal? text with
  | some reason => .error (.raised (.other "UnicodeEncodeError") reason)
  | none => .ok ()

theorem print_fst (text : String) (s : Session) :
  (Action.print text s).1 = shown text
  := by
  rw [Action.print, shown]
  rcases Machine.refusal? text with _ | reason
  · rfl
  · rfl

/-- What becomes of a dataset that is described in print. -/
def listed (d : Dataset) : Except Failure Unit := d.describe >>= shown

/-- A dataset is not listed if it cannot be described, or the console refuses its description, which is
the user's to mend. -/
theorem listed_eq_error_iff {d : Dataset} {f : Failure} :
  listed d = .error f ↔ d.describe = .error f
    ∨ ∃ text reason, d.describe = .ok text ∧ Machine.refusal? text = some reason
      ∧ f = .raised (.other "UnicodeEncodeError") reason
  := by
  have hshown : ∀ text, shown text = .error f ↔ ∃ reason, Machine.refusal? text = some reason
      ∧ f = .raised (.other "UnicodeEncodeError") reason := by
    intro text
    rw [shown]
    rcases Machine.refusal? text with _ | reason
    · simp
    · simp [eq_comm]
  simp only [listed, bind_eq_error_iff, hshown]
  constructor
  · rintro (h | ⟨text, htext, reason, h⟩)
    · exact .inl h
    · exact .inr ⟨text, reason, htext, h⟩
  · rintro (h | ⟨text, reason, htext, h⟩)
    · exact .inl h
    · exact .inr ⟨text, htext, reason, h⟩

theorem listed_detached (d : Dataset) :
  listed d.detached = listed d
  := by
  rw [listed, Dataset.describe_detached, listed]

/-- What becomes of the description of the dataset with an id. -/
def describeOne (r : Registry) (id : String) : Except Failure Unit :=
  r.get (.text id) >>= fun p => listed p.dataset

theorem describeOne_of_lookup {r : Registry} {id : String} {p : Published}
    (h : r.datasets.lookup id = some p) :
  describeOne r id = listed p.dataset
  := by
  rw [describeOne, Registry.get_text h]
  rfl

theorem describeAll_fst (r : Registry) (s : Session) :
  (describeAll r s).1 = forM r.ids (describeOne r)
  := by
  apply Action.forM_fst
  intro id s
  simp only [Action.bind_fst, print_fst]
  rfl

/-- The first dataset in the order of ids that is not listed ends the descriptions. -/
theorem describeAll_fst_eq_error_iff {r : Registry} {f : Failure} :
  (describeAll r s).1 = .error f
    ↔ ∃ id p, r.datasets.lookup id = some p ∧ listed p.dataset = .error f
      ∧ ∀ id' p', r.datasets.lookup id' = some p' → id' < id → listed p'.dataset = .ok ()
  := by
  have hsorted := r.pairwise_ids
  rw [describeAll_fst, forM_eq_error_iff]
  constructor
  · rintro ⟨before, id, after, hids, hbefore, hid⟩
    obtain ⟨p, hp⟩ : ∃ p, r.datasets.lookup id = some p := by
      rw [← Registry.mem_ids_iff, hids]
      simp
    rw [describeOne_of_lookup hp] at hid
    use id, p, hp, hid
    intro id' p' hp' hlt
    have hmem : id' ∈ r.ids := Registry.mem_ids_iff.mpr ⟨p', hp'⟩
    rw [hids] at hmem hsorted
    have hafter := (List.pairwise_append.mp hsorted).2.1
    rcases List.mem_append.mp hmem with hmem | hmem
    · have hok := hbefore id' hmem
      rwa [describeOne_of_lookup hp'] at hok
    · rcases List.mem_cons.mp hmem with rfl | hmem
      · exact absurd hlt (lt_irrefl _)
      · exact absurd hlt (not_lt.mpr (List.rel_of_pairwise_cons hafter hmem))
  · rintro ⟨id, p, hp, hlisted, hearlier⟩
    obtain ⟨before, after, hids, hnot⟩ :=
      List.eq_append_cons_of_mem (Registry.mem_ids_iff.mpr ⟨p, hp⟩)
    refine ⟨before, id, after, hids, ?_, by rw [describeOne_of_lookup hp, hlisted]⟩
    intro id' hid'
    obtain ⟨p', hp'⟩ : ∃ p', r.datasets.lookup id' = some p' := by
      rw [← Registry.mem_ids_iff, hids]
      exact List.mem_append_left _ hid'
    rw [hids] at hsorted
    have hle : id' ≤ id := (List.pairwise_append.mp hsorted).2.2 id' hid' id List.mem_cons_self
    have hne : id' ≠ id := fun h => hnot (h ▸ hid')
    rw [describeOne_of_lookup hp']
    exact hearlier id' p' hp' (lt_of_le_of_ne hle hne)

/-! ### Ways to fail -/

/-- The part of a dataset that is written. -/
def part (d : Dataset) (names : List String) (constraints : List (Option Request)) :
    Except Failure Grid :=
  completeRequests d constraints >>= fun full => (d.subset names full).result

/-- How a command fails: its entries cannot be had, or a dataset that it loads cannot be listed,
extracted or drawn.  Of several datasets that cannot be listed the first one counts. -/
inductive Fails (s : Session) : Command → Failure → Prop
  | unchosen {command : Command} {f : Failure} (chosen_eq : chosen s command = .error f) :
      Fails s command f
  | unlisted {catalogue : String} {only : Option Argument} {e : DatasetEntry} {d : Dataset}
      {f : Failure} (loads : Loads s (.info catalogue only) e d) (listed_eq : listed d = .error f)
      (earlier : ∀ e' d', Loads s (.info catalogue only) e' d' → e'.id < e.id →
        listed d' = .ok ()) : Fails s (.info catalogue only) f
  | unextracted {catalogue : String} {id output : Argument} {names : List String}
      {constraints : List (Option Request)} {e : DatasetEntry} {d : Dataset} {f : Failure}
      (loads : Loads s (.extract catalogue id names constraints output) e d)
      (part_eq : part d names constraints = .error f) :
      Fails s (.extract catalogue id names constraints output) f
  | undrawn {catalogue : String} {id : Argument} {output : Option Argument} {e : DatasetEntry}
      {d : Dataset} {f : Failure} (loads : Loads s (.plot catalogue id output) e d)
      (draw_eq : d.drawCoverage (output.map pathOf) = .error f) :
      Fails s (.plot catalogue id output) f

/-- A result is what comes of a command: its failure, or a code that says whether a dataset failed to
load. -/
structure EndsAs (s : Session) (command : Command) (r : Except Failure Nat) : Prop where
  error_iff : ∀ f, r = .error f ↔ Fails s command f
  code_cases : ∀ n, r = .ok n → n = 0 ∧ ¬ Skips s command ∨ n = 1 ∧ Skips s command

theorem endsAs_of_chosen_eq_error {f : Failure} (h : chosen s command = .error f) :
  EndsAs s command (.error f)
  := by
  have hloads : ∀ e d, ¬ Loads s command e d := by
    rintro e d ⟨es, hes, -⟩
    cases h.symm.trans hes
  constructor
  · intro f'
    constructor
    · intro hf
      obtain rfl := Except.error.inj hf
      exact .unchosen h
    · intro hf
      cases hf with
      | unchosen hchosen => exact congrArg Except.error (Except.error.inj (h.symm.trans hchosen))
      | unlisted hload => exact absurd hload (hloads _ _)
      | unextracted hload => exact absurd hload (hloads _ _)
      | undrawn hload => exact absurd hload (hloads _ _)
  · intro n hn
    cases hn

section Info

variable {catalogue : String} {only : Option Argument} {es : List DatasetEntry} {r : Registry}
  {failures : List (String × Failure)}

theorem exists_perform_info (h : (loadCatalogue catalogue only s).1 = .ok (r, failures)) :
  ∃ t, ((Command.info catalogue only).perform s).1
    = (describeAll r t).1 >>= fun _ => .ok (if failures.isEmpty then 0 else 1)
  := by
  rcases hload : loadCatalogue catalogue only s with ⟨result, t⟩
  rw [hload] at h
  obtain rfl : result = .ok (r, failures) := h
  use t
  rw [Command.perform, Action.bind_apply, hload]
  exact Action.bind_fst (describeAll r) _ t

/-- The first dataset of a loaded registry that cannot be listed is the first one that the command loads
and that cannot be listed. -/
theorem fails_info_iff (h : chosen s (.info catalogue only) = .ok es)
    (hloaded : HasLoaded s es r failures) (t : Session) {f : Failure} :
  Fails s (.info catalogue only) f ↔ (describeAll r t).1 = .error f
  := by
  rw [describeAll_fst_eq_error_iff]
  constructor
  · intro hf
    cases hf with
    | unchosen hchosen => cases h.symm.trans hchosen
    | @unlisted _ _ e d _ hload hlisted hearlier =>
      obtain ⟨he, hd⟩ := (loads_iff h).mp hload
      obtain ⟨p, hp, hsame⟩ := hloaded.exists_lookup e he d hd
      refine ⟨e.id, p, hp, ?_, ?_⟩
      · rw [← listed_detached, hsame, listed_detached, hlisted]
      · intro id' p' hp' hlt
        obtain ⟨e', he', rfl, d', hd', hsame'⟩ := hloaded.of_lookup id' p' hp'
        rw [← listed_detached, hsame', listed_detached]
        exact hearlier e' d' ((loads_iff h).mpr ⟨he', hd'⟩) hlt
  · rintro ⟨id, p, hp, hlisted, hearlier⟩
    obtain ⟨e, he, rfl, d, hd, hsame⟩ := hloaded.of_lookup id p hp
    refine .unlisted ((loads_iff h).mpr ⟨he, hd⟩) ?_ ?_
    · rw [← listed_detached, ← hsame, listed_detached, hlisted]
    · intro e' d' hload' hlt
      obtain ⟨he', hd'⟩ := (loads_iff h).mp hload'
      obtain ⟨p', hp', hsame'⟩ := hloaded.exists_lookup e' he' d' hd'
      rw [← listed_detached, ← hsame', listed_detached]
      exact hearlier e'.id p' hp' hlt

/-- The tool fails to list datasets exactly if one of them cannot be listed. -/
theorem exists_fails_info_iff (catalogue : String) (only : Option Argument)
    (s : Session) :
  (∃ f, Fails s (.info catalogue only) f)
    ↔ (∃ f, chosen s (.info catalogue only) = .error f)
      ∨ ∃ e d f, Loads s (.info catalogue only) e d ∧ listed d = .error f
  := by
  constructor
  · rintro ⟨f, hf⟩
    cases hf with
    | unchosen hchosen => exact .inl ⟨f, hchosen⟩
    | unlisted hload hlisted => exact .inr ⟨_, _, f, hload, hlisted⟩
  · rintro (⟨f, hchosen⟩ | ⟨e, d, f, hload, hlisted⟩)
    · exact ⟨f, .unchosen hchosen⟩
    · obtain ⟨es, hchosen, he, hd⟩ := hload
      obtain ⟨r, failures, -, hloaded⟩ := exists_hasLoaded hchosen
      obtain ⟨p, hp, hsame⟩ := hloaded.exists_lookup e he d hd
      rcases hall : (describeAll r s).1 with f' | ⟨⟨⟩⟩
      · exact ⟨f', (fails_info_iff hchosen hloaded s).mpr hall⟩
      · rw [describeAll_fst, forM_eq_ok_iff] at hall
        have hone := hall e.id (Registry.mem_ids_iff.mpr ⟨p, hp⟩)
        rw [describeOne_of_lookup hp, ← listed_detached, hsame, listed_detached, hlisted] at hone
        cases hone

theorem endsAs_info (catalogue : String) (only : Option Argument) (s : Session) :
  EndsAs s (.info catalogue only) ((Command.info catalogue only).perform s).1
  := by
  rcases hchosen : chosen s (.info catalogue only) with f | es
  · have hload := loadCatalogue_fst_of_chosen_eq_error hchosen
    simp only [Command.catalogue, Command.only] at hload
    rw [Command.perform, Action.bind_fst, hload]
    exact endsAs_of_chosen_eq_error hchosen
  · obtain ⟨r, failures, hload, hloaded⟩ := exists_hasLoaded hchosen
    simp only [Command.catalogue, Command.only] at hload
    obtain ⟨t, hperform⟩ := exists_perform_info hload
    rw [hperform]
    constructor
    · intro f
      rw [fails_info_iff hchosen hloaded t]
      simp [bind_eq_error_iff]
    · intro n hn
      obtain ⟨-, -, hn⟩ := bind_eq_ok_iff.mp hn
      obtain rfl := Except.ok.inj hn
      rw [hloaded.skips_iff hchosen]
      by_cases hempty : failures.isEmpty
      · left
        exact ⟨if_pos hempty, not_not.mpr hempty⟩
      · right
        exact ⟨if_neg hempty, hempty⟩

end Info

end Failures

section OneDataset

variable {id : Argument} {f : Dataset → Action Unit} {g : Dataset → Except Failure Unit}
  (hid : command.only = some id) (hfst : ∀ d t, (f d t).1 = g d)

include hid in
/-- A command about one dataset chooses one entry. -/
theorem chosen_eq_singleton {es : List DatasetEntry} (h : chosen s command = .ok es) :
  ∃ e, es = [e] ∧ id = .word e.id
  := by
  obtain ⟨all, hall, hselected⟩ := bind_eq_ok_iff.mp h
  rw [hid] at hselected
  have hids := Catalogue.nodup_ids_of_load (Prod.ext hall rfl)
  obtain ⟨-, hnone⟩ | ⟨e, -, heq, hone⟩ := selected_cases command.catalogue id hids
  · cases hnone.symm.trans hselected
  · exact ⟨e, (Except.ok.inj (hone.symm.trans hselected)).symm, heq⟩

include hfst in
theorem onDataset_fst {catalogue : String} {r : Registry} {failures : List (String × Failure)}
    (h : (loadCatalogue catalogue (some id) s).1 = .ok (r, failures)) :
  (onDataset catalogue id f s).1 = if failures.isEmpty then
      r.get (.text id.text) >>= fun p => g p.dataset >>= fun _ => .ok 0 else .ok 1
  := by
  rcases hload : loadCatalogue catalogue (some id) s with ⟨result, t⟩
  rw [hload] at h
  obtain rfl : result = .ok (r, failures) := h
  simp only [onDataset, Action.bind_apply, hload]
  rcases failures with _ | ⟨failure, failures⟩
  · simp only [List.isEmpty_nil, Bool.not_true, Bool.false_eq_true, if_false, if_true,
      Action.bind_fst, Action.liftM_apply, hfst]
    rfl
  · rfl

include hid hfst

/-- A command about one dataset ends as what it does with the dataset, if it does the same with the
dataset without origins. -/
theorem endsAs_onDataset [Machine] (hdetached : ∀ d, g d.detached = g d)
    (hfails : ∀ failure, Fails s command failure
      ↔ chosen s command = .error failure ∨ ∃ e d, Loads s command e d ∧ g d = .error failure) :
  EndsAs s command (onDataset command.catalogue id f s).1
  := by
  rcases hchosen : chosen s command with failure | es
  · have hload := loadCatalogue_fst_of_chosen_eq_error hchosen
    rw [hid] at hload
    rw [onDataset, Action.bind_fst, hload]
    exact endsAs_of_chosen_eq_error hchosen
  · obtain ⟨r, failures, hload, hloaded⟩ := exists_hasLoaded hchosen
    rw [hid] at hload
    obtain ⟨e, rfl, rfl⟩ := chosen_eq_singleton hid hchosen
    rw [onDataset_fst hfst hload]
    have hskips := hloaded.skips_iff hchosen
    by_cases hempty : failures.isEmpty
    · obtain ⟨d, hd⟩ := hloaded.isEmpty_iff.mp hempty e (List.mem_singleton_self e)
      obtain ⟨p, hp, hsame⟩ := hloaded.exists_lookup e (List.mem_singleton_self e) d hd
      have hresult : (r.get (.text (Argument.word e.id).text) >>= fun p => g p.dataset >>= fun _ =>
          (.ok 0 : Except Failure Nat)) = g d >>= fun _ => .ok 0 := by
        have hg : g p.dataset = g d := by rw [← hdetached, hsame, hdetached]
        have hget : r.get (.text (Argument.word e.id).text) = .ok p := Registry.get_text hp
        rw [hget, ← hg]
        rfl
      rw [if_pos hempty, hresult]
      constructor
      · intro failure
        rw [hfails, exists_loads_iff hchosen, hd, hchosen]
        simp [bind_eq_error_iff]
      · intro n hn
        obtain ⟨-, -, hn⟩ := bind_eq_ok_iff.mp hn
        left
        exact ⟨(Except.ok.inj hn).symm, fun hskip => hskips.mp hskip hempty⟩
    · have hnone : ∀ failure, ¬ Fails s command failure := by
        intro failure
        rw [hfails, exists_loads_iff hchosen, hchosen]
        rintro (h | ⟨d, hd, -⟩)
        · cases h
        · exact hempty (hloaded.isEmpty_iff.mpr (List.forall_mem_singleton.mpr ⟨d, hd⟩))
      rw [if_neg hempty]
      constructor
      · intro failure
        simp [hnone failure]
      · intro n hn
        right
        exact ⟨(Except.ok.inj hn).symm, hskips.mpr hempty⟩

end OneDataset

theorem part_detached [Machine] (d : Dataset) (names : List String)
    (constraints : List (Option Request)) :
  part d.detached names constraints = part d names constraints
  := by
  simp only [part, Dataset.subset_detached]
  rfl

theorem writePart_fst [Machine] (d : Dataset) (names : List String)
    (constraints : List (Option Request)) (output : String) (s : Session) :
  (writePart d names constraints output s).1 = part d names constraints >>= fun _ => .ok ()
  := by
  simp only [writePart, part, Action.bind_fst, bind_assoc]
  rfl

/-- Every command ends with its failure, or with a code that says whether a dataset failed to load. -/
theorem endsAs_perform [Machine] (s : Session) (command : Command) :
  EndsAs s command (command.perform s).1
  := by
  cases command with
  | info catalogue only => exact endsAs_info catalogue only s
  | extract catalogue id names constraints output =>
    apply endsAs_onDataset rfl fun d t => writePart_fst d names constraints output.text t
    · intro d
      rw [part_detached]
    · intro failure
      constructor
      · intro h
        cases h with
        | unchosen hchosen => exact .inl hchosen
        | unextracted hload hpart =>
          right
          exact ⟨_, _, hload, by rw [hpart]; rfl⟩
      · rintro (hchosen | ⟨e, d, hload, hpart⟩)
        · exact .unchosen hchosen
        · apply Fails.unextracted hload
          simpa [bind_eq_error_iff] using hpart
  | plot catalogue id output =>
    have hdraw : ∀ (d : Dataset) (t : Session), ((do
        Action.draw (← (d.drawCoverage (output.map pathOf) : Except Failure Drawing)) :
          Action Unit) t).1 = d.drawCoverage (output.map pathOf) >>= fun _ => .ok () := by
      intro d t
      rw [Action.bind_fst]
      rfl
    apply endsAs_onDataset rfl hdraw
    · intro d
      rw [Dataset.drawCoverage_detached]
    · intro failure
      constructor
      · intro h
        cases h with
        | unchosen hchosen => exact .inl hchosen
        | undrawn hload hdraw =>
          right
          exact ⟨_, _, hload, by rw [hdraw]; rfl⟩
      · rintro (hchosen | ⟨e, d, hload, hdraw⟩)
        · exact .unchosen hchosen
        · apply Fails.undrawn hload
          simpa [bind_eq_error_iff] using hdraw

/-! ### Failures that are the user's to mend -/

theorem isUserLevel_of_completeRequests {d : Dataset} {constraints : List (Option Request)}
    {f : Failure} (h : completeRequests d constraints = .error f) :
  f.kind.isUserLevel = true
  := by
  obtain hfull | ⟨full, -, h⟩ := bind_eq_error_iff.mp h
  · unfold Dataset.fullConstraints at hfull
    split at hfull
    · obtain rfl := Except.error.inj hfull
      rfl
    · cases hfull
  · split at h
    · cases h
    · obtain hcheck | ⟨_, -, hblank⟩ := bind_eq_error_iff.mp h
      · obtain ⟨name, fault, rfl⟩ := Dataset.exists_onAxis_of_checkRequests hcheck
        rfl
      · obtain rfl := Except.error.inj hblank
        rfl

section Answers

variable [Machine]

/-- A dataset gives every part of some variables: its children are regular, and whatever is requested
within its dimensions, there is room for the answers, what stands for missing data can be stored, and
the values of the dimensions can be coordinates. -/
structure GivesParts (d : Dataset) (names : List String) : Prop where
  isBuilt : ∀ c ∈ d.children, c.IsBuilt
  isRegular : ∀ c ∈ d.children, c.IsRegular
  hasAnswers : ∀ requests, Request.AllValid d.shape requests → d.HasAnswers names requests
  hasCoordinates : ∀ requests, Request.AllValid d.shape requests → d.HasCoordinates requests

/-- Of a dataset that gives every part, only requests that are not within its dimensions and names that
no variable has are refused. -/
theorem GivesParts.isUserLevel_of_part {d : Dataset} {names : List String}
    (h : GivesParts d names) {blocks : List Block} (hjoins : d.Joins d.children blocks)
    {constraints : List (Option Request)} {f : Failure}
    (hpart : part d names constraints = .error f) :
  f.kind.isUserLevel = true
  := by
  obtain hfull | ⟨full, -, hsubset⟩ := bind_eq_error_iff.mp hpart
  · exact isUserLevel_of_completeRequests hfull
  by_cases hvalid : Request.AllValid d.shape full
  · obtain ⟨merged, others, -, -, rfl⟩ := List.forall₂_cons_left_iff.mp hvalid
    have hread : ∀ v ∈ names, v ∈ d.variableNames → d.CanRead merged others v := fun v =>
      hjoins.canRead h.isBuilt hvalid h.isRegular (h.hasAnswers _ hvalid)
    by_cases hknown : ∀ v ∈ names, v ∈ d.variableNames
    · obtain ⟨answer, hanswer⟩ := (hjoins.exists_data_iff h.isBuilt hvalid names).mpr
        fun v hv => hread v hv (hknown v hv)
      obtain ⟨g, hg⟩ := hjoins.exists_subset_of_hasCoordinates h.isBuilt h.isRegular hvalid
        (h.hasCoordinates _ hvalid) hanswer
      cases hsubset.symm.trans hg
    · obtain ⟨v, hv⟩ := Dataset.exists_isFirstUnknown (by simpa using hknown)
      have hdata := hjoins.data_of_isFirstUnknown h.isBuilt hvalid hv hread
      have hunknown := Dataset.subset_of_data_eq_error hdata
      obtain rfl := Except.error.inj (hsubset.symm.trans hunknown)
      rfl
  · obtain ⟨e, he, hdata⟩ := Dataset.data_of_not_allValid hvalid names
    have hrefused := Dataset.subset_of_data_eq_error hdata
    obtain rfl := Except.error.inj (hsubset.symm.trans hrefused)
    rw [he.kind_eq]
    rfl

/-- A dataset can do what a command asks of it. -/
def Answers : Command → Dataset → Prop
  | .info _ _, d => d.IsDescribable
  | .extract _ _ names _ _, d => GivesParts d names
  | .plot _ _ _, d => ∃ c, d.coverage = .ok c

/-- The console refuses the description of a dataset. -/
def IsRefused (d : Dataset) : Prop :=
  ∃ text, d.describe = .ok text ∧ (Machine.refusal? text).isSome

/-- A dataset that can be described is not listed exactly if the console refuses its description, and
that is the user's to mend. -/
theorem exists_listed_eq_error_iff {d : Dataset} {blocks : List Block}
    (hjoins : d.Joins d.children blocks) (h : d.IsDescribable) :
  ((∃ f, listed d = .error f) ↔ IsRefused d)
    ∧ ∀ f, listed d = .error f → f.kind.isUserLevel = true
  := by
  obtain ⟨text, htext⟩ := hjoins.exists_describe_iff.mpr h
  constructor
  · simp [listed_eq_error_iff, IsRefused, htext, Option.isSome_iff_exists]
  · intro f hf
    obtain hdescribe | ⟨-, reason, -, -, rfl⟩ := listed_eq_error_iff.mp hf
    · cases htext.symm.trans hdescribe
    · rfl

/-- If the datasets can be described, the tool fails to list them exactly if they cannot be had or the
console refuses a description. -/
theorem exists_fails_info_iff_isRefused {catalogue : String} {only : Option Argument}
    (hanswers : ∀ e d, Loads s (.info catalogue only) e d → d.IsDescribable) :
  (∃ f, Fails s (.info catalogue only) f)
    ↔ (∃ f, chosen s (.info catalogue only) = .error f)
      ∨ ∃ e d, Loads s (.info catalogue only) e d ∧ IsRefused d
  := by
  rw [exists_fails_info_iff]
  apply or_congr_right
  apply exists_congr
  intro e
  apply exists_congr
  intro d
  rw [exists_and_left]
  apply and_congr_right
  intro hload
  obtain ⟨blocks, hjoins⟩ := hload.joins
  exact (exists_listed_eq_error_iff hjoins (hanswers e d hload)).1

/-- If the datasets can do what a command asks of them, it fails only as its entries cannot be had, or
as the user can mend. -/
theorem Fails.cases_of_answers {f : Failure} (h : Fails s command f)
    (hanswers : ∀ e d, Loads s command e d → Answers command d) :
  chosen s command = .error f ∨ f.kind.isUserLevel = true
  := by
  cases h with
  | unchosen hchosen => exact .inl hchosen
  | @unlisted _ _ e d _ hload hlisted hearlier =>
    right
    obtain ⟨blocks, hjoins⟩ := hload.joins
    exact (exists_listed_eq_error_iff hjoins (hanswers e d hload)).2 f hlisted
  | @unextracted _ _ _ _ _ e d _ hload hpart =>
    right
    obtain ⟨blocks, hjoins⟩ := hload.joins
    exact GivesParts.isUserLevel_of_part (hanswers e d hload) hjoins hpart
  | @undrawn _ _ _ e d _ hload hdraw =>
    obtain ⟨c, hc⟩ := hanswers e d hload
    obtain ⟨drawing, hdrawing, -⟩ := Dataset.exists_drawCoverage hc _
    cases hdraw.symm.trans hdrawing

/-- If the catalogue can be read and the datasets can do what a command asks of them, every failure is
the user's to mend. -/
theorem Fails.isUserLevel_eq {f : Failure} (h : Fails s command f)
    (hread : ∀ f, ¬ Catalogue.IsUnread command.catalogue s f)
    (hanswers : ∀ e d, Loads s command e d → Answers command d) :
  f.kind.isUserLevel = true
  := by
  rcases h.cases_of_answers hanswers with hchosen | huser
  · by_contra hnot
    exact hread f (isUnread_iff_chosen.mpr ⟨hchosen, by simpa using hnot⟩)
  · exact huser

end Answers

/-! ### Exit codes -/

/-- What is reported of the result of a command: a code, or a failure that is passed on. -/
def reported : Except Failure Nat → Except Failure Nat
  | .ok code => .ok code
  | .error f => if f.kind.isUserLevel then .ok 1 else .error f

theorem run_fst [Machine] (verbose : Bool) (command : Command) (s : Session) :
  (Invocation.run ⟨none, verbose, command⟩ s).1 = reported (command.perform s).1
  := by
  have hlog : prepareLog none s = (.ok (), s) := rfl
  simp only [Invocation.run, Action.bind_apply, hlog, Action.attempt]
  rcases command.perform s with ⟨f | code, s'⟩
  · dsimp only [reported]
    split
    · rfl
    · rfl
  · rfl

/-- What is reported of a result, told by the ways to fail and by the datasets that fail to load. -/
theorem EndsAs.reported_iff [Machine] {r : Except Failure Nat} (h : EndsAs s command r) :
  (∀ f, reported r = .error f ↔ Fails s command f ∧ f.kind.isUserLevel = false)
    ∧ (reported r = .ok 1 ↔ (∃ f, Fails s command f ∧ f.kind.isUserLevel = true)
        ∨ (∀ f, ¬ Fails s command f) ∧ Skips s command)
    ∧ (reported r = .ok 0 ↔ (∀ f, ¬ Fails s command f) ∧ ¬ Skips s command)
  := by
  rcases r with f | n
  · have hfails : ∀ f', Fails s command f' ↔ f' = f := by
      intro f'
      rw [← h.error_iff f', Except.error.injEq, eq_comm]
    by_cases huser : f.kind.isUserLevel = true
    · simp [reported, hfails, huser]
    · have herror : reported (.error f) = .error f := if_neg huser
      rw [Bool.not_eq_true] at huser
      refine ⟨fun f' => ?_, by simp [herror, hfails, huser], by simp [herror, hfails]⟩
      rw [herror, hfails, Except.error.injEq]
      constructor
      · rintro rfl
        exact ⟨rfl, huser⟩
      · rintro ⟨rfl, -⟩
        rfl
  · have hnone : ∀ f, ¬ Fails s command f := by
      intro f hf
      cases (h.error_iff f).mpr hf
    obtain ⟨rfl, hskips⟩ | ⟨rfl, hskips⟩ := h.code_cases n rfl
    · simp [reported, hnone, hskips]
    · simp [reported, hnone, hskips]

/-- Without a log file a command ends with code 0 or 1, or passes on its failure exactly if that is not
the user's to mend.  The code is 1 if there is a failure or a dataset fails to load.  Of the failures
to choose entries just those to read the catalogue are passed on; and if the catalogue can be read and
the datasets can do what the command asks of them, nothing is.  Then the code of a list of datasets is 1
exactly if the entries cannot be had, a dataset fails to load, or the console refuses a description. -/
theorem run_reports [Machine] (verbose : Bool) (command : Command) (s : Session) :
  let run := (Invocation.run ⟨none, verbose, command⟩ s).1
  (∀ f, run = .error f ↔ Fails s command f ∧ f.kind.isUserLevel = false)
    ∧ (run = .ok 1 ↔ (∃ f, Fails s command f ∧ f.kind.isUserLevel = true)
        ∨ (∀ f, ¬ Fails s command f) ∧ Skips s command)
    ∧ (run = .ok 0 ↔ (∀ f, ¬ Fails s command f) ∧ ¬ Skips s command)
    ∧ (∀ f, chosen s command = .error f ∧ f.kind.isUserLevel = false
        ↔ Catalogue.IsUnread command.catalogue s f)
    ∧ ((∀ f, ¬ Catalogue.IsUnread command.catalogue s f) →
        (∀ e d, Loads s command e d → Answers command d) →
        (run = .ok 0 ∨ run = .ok 1)
          ∧ ∀ catalogue only, command = .info catalogue only →
            (run = .ok 1 ↔ (∃ f, chosen s command = .error f) ∨ Skips s command
              ∨ ∃ e d, Loads s command e d ∧ IsRefused d))
  := by
  intro run
  have hrun : run = reported (command.perform s).1 := run_fst verbose command s
  obtain ⟨herror, hone, hzero⟩ := (endsAs_perform s command).reported_iff
  rw [← hrun] at herror hone hzero
  refine ⟨herror, hone, hzero, fun f => isUnread_iff_chosen.symm, ?_⟩
  intro hread hanswers
  have huser : ∀ f, Fails s command f → f.kind.isUserLevel = true := fun f hf =>
    hf.isUserLevel_eq hread hanswers
  constructor
  · by_cases hfails : ∃ f, Fails s command f
    · obtain ⟨f, hf⟩ := hfails
      right
      exact hone.mpr (.inl ⟨f, hf, huser f hf⟩)
    · rw [not_exists] at hfails
      by_cases hskips : Skips s command
      · right
        exact hone.mpr (.inr ⟨hfails, hskips⟩)
      · left
        exact hzero.mpr ⟨hfails, hskips⟩
  · rintro catalogue only rfl
    have hmended : (∃ f, Fails s (.info catalogue only) f ∧ f.kind.isUserLevel = true)
        ↔ ∃ f, Fails s (.info catalogue only) f :=
      exists_congr fun f => and_iff_left_of_imp (huser f)
    rw [hone, hmended, ← not_exists, ← or_assoc, or_right_comm,
      ← exists_fails_info_iff_isRefused hanswers]
    by_cases hfails : ∃ f, Fails s (.info catalogue only) f
    · simp only [hfails, not_true, false_and, or_false, true_or]
    · simp only [hfails, not_false_iff, true_and]

/-- A session with a catalogue of two datasets, of which only the first one's child is there. -/
def oneMissing : Session :=
  let catalogue :=
    "datasets:\n- dataset_id: a\n  children: [east]\n- dataset_id: b\n  children: [west]"
  { (default : Session) with files := { (default : Files) with
      onDisk := [(["plates"], catalogue.toList.map fun c => UInt8.ofNat c.toNat), (["east"], [])]
      grids := [("east", .grid (Dataset.lineChild [1] "v" [2]).grid)] } }

theorem answers_oneMissing {only : Option Argument} {es : List DatasetEntry}
    (hchosen : chosen oneMissing (.info "plates" only) = .ok es)
    (hnames : es.all fun e => e.children.all fun c => c.name matches .null)
    (hindex : es.all fun e => (e.build .fromFiles oneMissing).1.toOption.all fun d =>
      !d.id.isTooLong && !d.title.isTooLong
        && (AxisUnion.tableIndex d.union.axis).toOption.isSome) :
  ∀ e d, Loads oneMissing (.info "plates" only) e d → d.IsDescribable
  := by
  intro e d hload
  obtain ⟨he, hbuild⟩ := (loads_iff hchosen).mp hload
  have hnull := List.all_eq_true.mp (List.all_eq_true.mp hnames e he)
  have hsome := List.all_eq_true.mp hindex e he
  rw [hbuild] at hsome
  simp only [Except.toOption, Option.all_some, Bool.and_eq_true, Bool.not_eq_true'] at hsome
  obtain ⟨⟨hid, htitle⟩, hsome⟩ := hsome
  apply Dataset.isDescribable_of_areTexts
  · exact ⟨by simp [hid], by simp [htitle]⟩
  · apply hload.areTexts
    intro c hc
    have hc := hnull c hc
    split at hc
    · next hname => exact .inl hname
    · cases hc
  · obtain ⟨index, hindex⟩ := Option.isSome_iff_exists.mp hsome
    exact ⟨index, eq_ok_of_toOption hindex⟩

/-- The code is 1 as one of two datasets fails to load, and 0 if only the other one is described. -/
theorem run_reports_oneMissing :
  (Invocation.run ⟨none, false, .info "plates" none⟩ oneMissing).1 = .ok 1
    ∧ (Invocation.run ⟨none, false, .info "plates" (some (.word "a"))⟩ oneMissing).1 = .ok 0
  := by
  have hread {only : Option Argument} {es : List DatasetEntry}
      (h : chosen oneMissing (.info "plates" only) = .ok es) :
      ∀ f, ¬ Catalogue.IsUnread (Command.info "plates" only).catalogue oneMissing f := by
    intro f hf
    cases h.symm.trans (isUnread_iff_chosen.mp hf).1
  constructor
  · have hboth : (chosen oneMissing (.info "plates" none)).toOption.any fun es =>
        (es.all fun e => e.children.all fun c => c.name matches .null)
          && (es.all fun e => (e.build .fromFiles oneMissing).1.toOption.all fun d =>
            !d.id.isTooLong && !d.title.isTooLong
              && (AxisUnion.tableIndex d.union.axis).toOption.isSome)
          && es.any fun e => (e.build .fromFiles oneMissing).1.toOption.isNone := by
      decide +kernel
    obtain ⟨es, hes, hboth⟩ := (Option.any_eq_true _ _).mp hboth
    have hchosen := eq_ok_of_toOption hes
    simp only [Bool.and_eq_true] at hboth
    obtain ⟨⟨hnames, hindex⟩, hskipped⟩ := hboth
    obtain ⟨e, he, hfails⟩ := List.any_eq_true.mp hskipped
    obtain ⟨-, -, -, -, hreports⟩ := run_reports false (.info "plates" none) oneMissing
    obtain ⟨-, hone⟩ := hreports (hread hchosen) (answers_oneMissing hchosen hnames hindex)
    apply (hone "plates" none rfl).mpr
    right
    left
    exact ⟨es, hchosen, e, he, exists_error_of_isNone hfails⟩
  · have hfirst : (chosen oneMissing (.info "plates" (some (.word "a")))).toOption.any fun es =>
        (es.all fun e => e.children.all fun c => c.name matches .null)
          && (es.all fun e => (e.build .fromFiles oneMissing).1.toOption.all fun d =>
            !d.id.isTooLong && !d.title.isTooLong
              && (AxisUnion.tableIndex d.union.axis).toOption.isSome)
          && es.all fun e => (e.build .fromFiles oneMissing).1.toOption.isSome := by
      decide +kernel
    obtain ⟨es, hes, hfirst⟩ := (Option.any_eq_true _ _).mp hfirst
    have hchosen := eq_ok_of_toOption hes
    simp only [Bool.and_eq_true] at hfirst
    obtain ⟨⟨hnames, hindex⟩, hloaded⟩ := hfirst
    obtain ⟨-, -, -, -, hreports⟩ :=
      run_reports false (.info "plates" (some (.word "a"))) oneMissing
    obtain ⟨hcode, hone⟩ := hreports (hread hchosen) (answers_oneMissing hchosen hnames hindex)
    apply hcode.resolve_right
    intro hfailed
    obtain ⟨f, hf⟩ | ⟨es', hes', e, he, f, hf⟩ | ⟨e, d, -, text, -, hrefused⟩ :=
      (hone "plates" (some (.word "a")) rfl).mp hfailed
    · cases hchosen.symm.trans hf
    · obtain rfl := Except.ok.inj (hchosen.symm.trans hes')
      have hsome := List.all_eq_true.mp hloaded e he
      rw [hf] at hsome
      cases hsome
    · cases hrefused

/-- A catalogue that is not there ends the tool with a failure. -/
theorem run_missingCatalogue :
  ∃ i, Invocation.ofArguments ["info", "none.yaml"] = .ok i
    ∧ i.logFile = none ∧ i.command = .info "none.yaml" none
    ∧ (i.run default).1 = .error (.missingFile "none.yaml")
    ∧ (Failure.missingFile "none.yaml").kind = .fileNotFound
  := by
  have hread : (Invocation.ofArguments ["info", "none.yaml"]).toOption
      = some ⟨none, false, .info "none.yaml" none⟩ := by
    decide +kernel
  exact ⟨_, eq_ok_of_toOption hread, rfl, rfl, rfl, rfl⟩

/-- A session with a catalogue of one dataset, with a title that has no bytes in UTF-8. -/
def surrogateTitle : Session :=
  let catalogue := "datasets:\n- dataset_id: a\n  title: \"\\ud800\"\n  children: [east]"
  { (default : Session) with files := { (default : Files) with
      onDisk := [(["plates"], catalogue.toList.map fun c => UInt8.ofNat c.toNat), (["east"], [])]
      grids := [("east", .grid (Dataset.lineChild [1] "v" [2]).grid)] } }

-- The description of the dataset is refused by a terminal, but not by every console.
example :
    let run (m : Machine) := (@Invocation.run m ⟨none, false, .info "plates" none⟩ surrogateTitle).1
    (run .terminal).toOption = some 1 ∧ (run .usual).toOption = some 0 := by
  decide +kernel

end CommandLine

end GridUnion
