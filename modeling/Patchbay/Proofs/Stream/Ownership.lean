import Mathlib.Data.List.Basic
import Mathlib.Data.List.Induction
import Mathlib.Data.List.Nodup
import Mathlib.Tactic.ByContra
import Patchbay.Stream.Resolve

/-! Owned parameters: which control node owns a parameter of a definition in a file, which name it
has, and at which place it stands among the owned ones. -/

namespace Patchbay.Stream

/-- The rate of the output that stands for a parameter, when a control node owns it. -/
def RawNode.rateAt? (node : RawNode) (place : Nat) : Option Rate :=
  if isControlOp node.op ∧ node.special ≤ place then node.outputs[place - node.special]? else none

/-- The rate of a parameter at the first control node that owns it. -/
def RawDefinition.rateAt? (raw : RawDefinition) (place : Nat) : Option Rate :=
  raw.nodes.toList.findSome? fun node => node.rateAt? place

/-- A claim gives rates to the places from its start on, as far as they have none. -/
theorem claim_get (start : Nat) (rates : List Rate) (owners : Owners) (place : Nat) :
    (claim start rates owners)[place]? = owners[place]?.map fun owner =>
      owner.or (if start ≤ place then rates[place - start]? else none) := by
  -- The start moves along with the rates that are left.
  induction rates generalizing start owners with
  | nil => simp [claim]
  | cons rate rest ih =>
    rw [claim, ih, Array.getElem?_modify]
    rcases Nat.lt_trichotomy start place with before | rfl | after
    · -- The first rate is for an earlier place.
      have shift : place - start = place - (start + 1) + 1 := by omega
      simp [Nat.ne_of_lt before, Nat.le_of_lt before, Nat.succ_le_of_lt before, shift]
    · -- The place is the first one, which keeps an earlier owner.
      cases owners[start]? with
      | none => simp
      | some owner => cases owner <;> simp
    · simp [Nat.ne_of_gt after, Nat.not_le.mpr after, Nat.not_le.mpr (Nat.lt_succ_of_lt after)]

/-- Claims of several nodes give a place the rate of the first that owns it. -/
theorem claims_get (nodes : List RawNode) (owners : Owners) (place : Nat) :
    (nodes.foldl (fun owners node =>
        if isControlOp node.op then claim node.special node.outputs.toList owners else owners)
          owners)[place]? =
      owners[place]?.map fun owner =>
        owner.or (nodes.findSome? fun node => node.rateAt? place) := by
  induction nodes generalizing owners with
  | nil => simp
  | cons node rest ih =>
    -- A node that is no control claims nothing.
    have step :
        (if isControlOp node.op then claim node.special node.outputs.toList owners
          else owners)[place]? =
          owners[place]?.map fun owner => owner.or (node.rateAt? place) := by
      unfold RawNode.rateAt?
      cases isControlOp node.op with
      | false => simp
      | true => simp [claim_get]
    rw [List.foldl_cons, ih, step, Option.map_map, List.findSome?_cons]
    -- The rate of the node comes before those of the rest, and after what was there.
    congr 1
    funext owner
    cases node.rateAt? place <;> simp

/-- A place that has an owner. -/
def Owned (owners : Owners) (place : Nat) : Prop := (owners[place]?.getD none).isSome = true

instance (owners : Owners) : DecidablePred (Owned owners) := fun place =>
  inferInstanceAs (Decidable ((owners[place]?.getD none).isSome = true))

/-- Only places of the table have an owner. -/
theorem Owned.lt_size {owners : Owners} {place : Nat} (owned : Owned owners place) :
    place < owners.size := by
  -- Beyond the table nothing is found.
  apply Decidable.byContradiction
  intro outside
  rw [Owned, Array.getElem?_eq_none (Nat.le_of_not_lt outside)] at owned
  cases owned

/-- The first name that the entries give to a place, if they give it one. -/
def nameAt (entries : List NameEntry) (place : Nat) : Bytes :=
  ((entries.find? fun entry => entry.index = place ∧ entry.name ≠ []).map NameEntry.name).getD []

/-- One more entry names a place that has no name yet. -/
theorem nameAt_concat (entries : List NameEntry) (entry : NameEntry) (place : Nat) :
    nameAt (entries ++ [entry]) place =
      if nameAt entries place = [] ∧ entry.index = place then entry.name
        else nameAt entries place := by
  -- The new entry only counts where the search among the others finds nothing.
  unfold nameAt
  rw [List.find?_append]
  cases found : entries.find? fun entry => entry.index = place ∧ entry.name ≠ [] with
  | none =>
    by_cases here : entry.index = place ∧ entry.name ≠ []
    · simp [here]
    · simp only [List.find?_cons, List.find?_nil]
      grind
  | some first =>
    have named : first.name ≠ [] := by
      have both := List.find?_some found
      simp only [decide_eq_true_eq] at both
      exact both.2
    simp [named]

/-- Where indices increase, a place has the name of the only entry for it. -/
theorem nameAt_eq_iff {entries : List NameEntry}
    (increasing : entries.Pairwise fun a b => a.index < b.index)
    {place : Nat} {text : Bytes} (given : text ≠ []) :
    nameAt entries place = text ↔ ∃ entry ∈ entries, entry.index = place ∧ entry.name = text := by
  unfold nameAt
  constructor
  · intro named
    cases found : entries.find? fun entry => entry.index = place ∧ entry.name ≠ [] with
    | none =>
      rw [found] at named
      exact absurd named.symm given
    | some entry =>
      have here := List.find?_some found
      simp only [decide_eq_true_eq] at here
      rw [found] at named
      exact ⟨entry, List.mem_of_find?_eq_some found, here.1, named⟩
  · rintro ⟨entry, member, rfl, rfl⟩
    have present :
        (entries.find? fun other => other.index = entry.index ∧ other.name ≠ []).isSome := by
      rw [List.find?_isSome]
      exact ⟨entry, member, by simpa using given⟩
    obtain ⟨first, found⟩ := Option.isSome_iff_exists.mp present
    have here := List.find?_some found
    simp only [decide_eq_true_eq] at here
    -- Increasing indices are distinct, so that both entries are the same one.
    have distinct : (entries.map NameEntry.index).Nodup :=
      List.pairwise_map.mpr (increasing.imp Nat.ne_of_lt)
    have same : first = entry :=
      List.inj_on_of_nodup_map distinct (List.mem_of_find?_eq_some found) member here.1
    rw [found, same]
    rfl

/-- Where indices increase, the entries in front of an entry do not name its place. -/
theorem nameAt_take_eq_nil {entries : List NameEntry}
    (increasing : entries.Pairwise fun a b => a.index < b.index)
    {i : Nat} {entry : NameEntry} (here : entries[i]? = some entry) :
    nameAt (entries.take i) entry.index = [] := by
  -- An earlier entry for the same place would have a smaller index.
  by_contra named
  obtain ⟨other, earlier, same, _⟩ :=
    (nameAt_eq_iff (increasing.sublist (List.take_sublist i entries)) named).mp rfl
  obtain ⟨j, bound, there⟩ := List.mem_take_iff_getElem.mp earlier
  obtain ⟨inside, equal⟩ := List.getElem?_eq_some_iff.mp here
  have less := List.pairwise_iff_getElem.mp increasing j i (by omega) inside (by omega)
  rw [there, equal, same] at less
  exact Nat.lt_irrefl _ less

section Labels

variable {owners : Owners} {entries : List NameEntry}

/-- One more entry is labelled after the others. -/
theorem labelAll_concat (owners : Owners) (entries : List NameEntry) (entry : NameEntry) :
    labelAll owners (entries ++ [entry]) =
      ((label owners (labelAll owners entries).1 entry).1,
        (labelAll owners entries).2 ++
          (label owners (labelAll owners entries).1 entry).2.toList) := by
  -- Labelling goes through the entries from the first to the last.
  simp only [labelAll, List.foldl_append, List.foldl_cons, List.foldl_nil, List.reverse_append]
  congr 2
  cases (label _ _ entry).2 <;> rfl

/-- There is one label for each parameter. -/
theorem labelAll_size (owners : Owners) (entries : List NameEntry) :
    (labelAll owners entries).1.size = owners.size := by
  -- Each entry sets one label or none, and adds none.
  induction entries using List.reverseRecOn with
  | nil => simp [labelAll]
  | append_singleton entries entry ih =>
    rw [labelAll_concat, ← ih]
    simp only [label]
    split
    · rfl
    · split
      · rfl
      · simp

/-- An entry labels its parameter when that is owned and has no label, and else tells why not. -/
theorem label_cases (owners : Owners) (labels : Array Bytes) (entry : NameEntry) :
    (Owned owners entry.index ∧ labels[entry.index]?.getD [] = [] ∧
        label owners labels entry = (labels.setIfInBounds entry.index entry.name, none)) ∨
      (¬ (Owned owners entry.index ∧ labels[entry.index]?.getD [] = []) ∧
        ∃ diagnostic, label owners labels entry = (labels, some diagnostic)) := by
  -- The entry is refused for one of two reasons, or it is taken.
  unfold label Owned
  split
  · rename_i free
    exact .inr ⟨fun both => by simp [Option.isNone_iff_eq_none.mp free] at both, _, rfl⟩
  · rename_i owned
    split
    · rename_i taken
      exact .inr ⟨fun both => taken both.2, _, rfl⟩
    · rename_i empty
      exact .inl ⟨by simpa [Option.isSome_iff_ne_none] using owned, by simpa using empty, rfl⟩

/-- The label of an owned parameter is the first name that the entries give it, and no other has
one. -/
theorem labelAll_get (owners : Owners) (entries : List NameEntry) (place : Nat) :
    (labelAll owners entries).1[place]?.getD [] =
      if Owned owners place then nameAt entries place else [] := by
  -- The entries are labelled from the first to the last, so that the last one is taken off.
  induction entries using List.reverseRecOn generalizing place with
  | nil =>
    simp only [labelAll, nameAt, List.foldl_nil, List.find?_nil, Option.map_none, Option.getD_none,
      ite_self, Array.getElem?_replicate]
    split <;> rfl
  | append_singleton entries entry ih =>
    have size := labelAll_size owners entries
    rw [labelAll_concat, nameAt_concat]
    rcases label_cases owners (labelAll owners entries).1 entry with
      ⟨owned, empty, set⟩ | ⟨refused, _, kept⟩
    · -- The entry names its parameter, which has had no name before.
      rw [set]
      rw [ih, if_pos owned] at empty
      by_cases same : entry.index = place
      · subst same
        have inside : entry.index < (labelAll owners entries).1.size := size ▸ owned.lt_size
        simp [owned, empty, inside]
      · simp [same, ih]
    · -- The entry is dropped: its parameter has no owner, or has a name already.
      rw [kept, ih]
      rw [ih] at refused
      split
      · rename_i owned
        rw [if_neg]
        rintro ⟨empty, rfl⟩
        exact refused ⟨owned, by rw [if_pos owned, empty]⟩
      · rfl

/-- Nothing is wrong with the name table exactly when each entry names an owned parameter that no
earlier entry names. -/
theorem labelAll_quiet_iff (owners : Owners) (entries : List NameEntry) :
    (labelAll owners entries).2 = [] ↔ ∀ (i : Nat) (entry : NameEntry), entries[i]? = some entry →
      Owned owners entry.index ∧ nameAt (entries.take i) entry.index = [] := by
  induction entries using List.reverseRecOn with
  | nil => simp [labelAll]
  | append_singleton entries entry ih =>
    -- Nothing is wrong with the last entry when its parameter is owned and still without a name.
    have last : (label owners (labelAll owners entries).1 entry).2.toList = [] ↔
        Owned owners entry.index ∧ nameAt entries entry.index = [] := by
      rcases label_cases owners (labelAll owners entries).1 entry with
        ⟨owned, empty, set⟩ | ⟨refused, _, kept⟩
      · rw [labelAll_get, if_pos owned] at empty
        simp [set, owned, empty]
      · rw [labelAll_get] at refused
        simp only [kept, Option.toList_some, List.cons_ne_nil, false_iff]
        rintro ⟨owned, empty⟩
        exact refused ⟨owned, by rw [if_pos owned, empty]⟩
    rw [labelAll_concat, List.append_eq_nil_iff, ih, last]
    constructor
    · rintro ⟨others, final⟩ i other here
      rcases Nat.lt_or_ge i entries.length with before | after
      · -- An earlier entry has the same entries in front of it.
        rw [List.getElem?_append_left before] at here
        rw [List.take_append_of_le_length (Nat.le_of_lt before)]
        exact others i other here
      · have bound := (List.getElem?_eq_some_iff.mp here).1
        obtain rfl : i = entries.length := by
          rw [List.length_append, List.length_singleton] at bound
          omega
        rw [List.getElem?_concat_length, Option.some.injEq] at here
        rwa [List.take_left, ← here]
    · intro all
      constructor
      · intro i other here
        have before := (List.getElem?_eq_some_iff.mp here).1
        have known := all i other (by rw [List.getElem?_append_left before, here])
        rwa [List.take_append_of_le_length (Nat.le_of_lt before)] at known
      · have known := all entries.length entry List.getElem?_concat_length
        rwa [List.take_left] at known

end Labels

/-- Counts one more place if it has an owner. -/
def countOwned (state : Array Nat × Nat) (owner : Option Rate) : Array Nat × Nat :=
  let count := if owner.isSome then state.2 + 1 else state.2
  (state.1.push count, count)

/-- The counts in front of the places are gathered place by place. -/
theorem ownedBefore_eq (owners : Owners) :
    ownedBefore owners = (owners.toList.foldl countOwned (#[0], 0)).1 := by
  -- The table is read as a list.
  rw [Array.foldl_toList]
  rfl

namespace RawDefinition

variable (raw : RawDefinition)

/-- The owners of a definition are the rates of its parameters. -/
theorem owners_eq : raw.owners = ((List.range raw.defaults.size).map raw.rateAt?).toArray := by
  -- No place has an owner before the claims are made.
  apply Array.ext_getElem?
  intro place
  rw [owners, ← Array.foldl_toList, claims_get]
  by_cases inside : place < raw.defaults.size
  · simp [inside, rateAt?]
  · simp [inside]

/-- A parameter is owned when some control node gives it a rate. -/
theorem owned_iff {place : Nat} :
    Owned raw.owners place ↔ place < raw.defaults.size ∧ ∃ rate, raw.rateAt? place = some rate := by
  -- The table of owners has the rate at each place.
  rw [Owned, owners_eq]
  by_cases inside : place < raw.defaults.size
  · simp [inside, Option.isSome_iff_exists]
  · simp [inside]

/-- The owners with their places. -/
theorem owners_zipIdx : raw.owners.toList.zipIdx =
    (List.range raw.defaults.size).map fun place => (raw.rateAt? place, place) := by
  -- Both lists have the same item at each place.
  rw [owners_eq]
  apply List.ext_getElem?
  intro place
  by_cases inside : place < raw.defaults.size
  · simp [inside]
  · simp [inside]

/-- No parameter is without an owner exactly when each has a rate. -/
theorem orphanParameters_eq_nil_iff : orphanParameters raw.parametersAt raw.owners = [] ↔
    ∀ place < raw.defaults.size, ∃ rate, raw.rateAt? place = some rate := by
  -- An orphan is found at each place without a rate.
  rw [orphanParameters, owners_zipIdx, List.filterMap_map, List.filterMap_eq_nil_iff]
  simp only [List.mem_range, Function.comp_apply]
  refine forall₂_congr fun place _ => ?_
  cases raw.rateAt? place <;> simp

/-- Nothing is wrong with the names and parameters of a definition exactly when all parameters are
owned and each entry names a parameter that no earlier entry names. -/
theorem diagnostics_eq_nil_iff : raw.diagnostics = [] ↔
    (∀ place < raw.defaults.size, ∃ rate, raw.rateAt? place = some rate) ∧
      ∀ (i : Nat) (entry : NameEntry), raw.entries[i]? = some entry →
        entry.index < raw.defaults.size ∧ nameAt (raw.entries.toList.take i) entry.index = [] := by
  -- Where all parameters are owned, an entry only has to name one of them.
  rw [diagnostics, List.append_eq_nil_iff, labelAll_quiet_iff, orphanParameters_eq_nil_iff,
    and_comm]
  simp only [owned_iff, Array.getElem?_toList]
  refine and_congr_right fun all => forall₃_congr fun i entry _ => and_congr_left fun _ => ?_
  exact and_iff_left_of_imp (all entry.index)

/-- The number of owned parameters in front of a place. -/
def rebase (place : Nat) : Nat := (List.range place).countP fun slot => (raw.rateAt? slot).isSome

/-- The parameter that stands at a place, with the rate that its owner gives it. -/
def parameter (place : Nat) (rate : Rate) : Descriptor :=
  ⟨nameAt raw.entries.toList place, rate, raw.defaults[place]?.getD .zero, .zero⟩

/-- The controls of a definition are its owned parameters in order. -/
theorem controls_eq : raw.controls raw.owners =
    (List.range raw.defaults.size).filterMap fun place => (raw.rateAt? place).map
    (raw.parameter place) := by
  -- Only owned parameters become controls, and these have the label that their entries give.
  simp only [controls, owners_zipIdx, List.filterMap_map]
  refine List.filterMap_congr fun place member => ?_
  cases rate : raw.rateAt? place with
  | none => simp [rate]
  | some rate' =>
    have owned : Owned raw.owners place := raw.owned_iff.mpr ⟨List.mem_range.mp member, rate', rate⟩
    simp [rate, labelAll_get, owned, parameter]

/-- In front of a place there are as many controls as parameters with an owner. -/
theorem length_owned (place : Nat) :
    ((List.range place).filterMap fun slot => (raw.rateAt? slot).map (raw.parameter slot)).length =
      raw.rebase place := by
  -- One control is made for each place with a rate.
  rw [List.length_filterMap_eq_countP, rebase]
  simp only [Option.isSome_map]

/-- There are as many controls as parameters with an owner. -/
theorem length_controls : (raw.controls raw.owners).length = raw.rebase raw.defaults.size := by
  -- The controls are made in front of the last place.
  rw [controls_eq, length_owned]

/-- An owned parameter stands behind the owned ones in front of it. -/
theorem controls_get {place : Nat} {rate : Rate} (inside : place < raw.defaults.size)
    (owned : raw.rateAt? place = some rate) :
    (raw.controls raw.owners)[raw.rebase place]? = some (raw.parameter place rate) := by
  -- The places fall into those in front of this one, this one and those behind it.
  have parts := (List.take_append_drop place (List.range raw.defaults.size)).symm
  rw [List.drop_eq_getElem_cons (by simpa using inside), List.take_range,
    Nat.min_eq_left (Nat.le_of_lt inside), List.getElem_range] at parts
  rw [controls_eq, parts, List.filterMap_append, ← raw.length_owned,
    List.getElem?_append_right (Nat.le_refl _), Nat.sub_self, List.filterMap_cons, owned]
  rfl

/-- One more place is counted when it is owned. -/
theorem rebase_succ (place : Nat) :
    raw.rebase (place + 1) =
      if (raw.rateAt? place).isSome then raw.rebase place + 1 else raw.rebase place := by
  -- The count goes on by the place.
  rw [rebase, List.range_succ, List.countP_append, List.countP_singleton]
  split <;> rfl

/-- After the owners of some places, the counts are those up to the next place. -/
theorem countOwned_rates (count : Nat) :
    ((List.range count).map raw.rateAt?).foldl countOwned (#[0], 0) =
    (((List.range (count + 1)).map raw.rebase).toArray, raw.rebase count) := by
  -- The counts are gathered along with the places.
  induction count with
  | zero => rfl
  | succ count ih =>
    rw [List.range_succ, List.map_append, List.foldl_append, ih, List.range_succ (n := count + 1)]
    simp [countOwned, rebase_succ]

/-- The count in front of each place is the number of owned parameters there. -/
theorem ownedBefore_get {place : Nat} (inside : place ≤ raw.defaults.size) :
    (ownedBefore raw.owners)[place]? = some (raw.rebase place) := by
  -- The table of counts goes one place beyond the parameters.
  rw [ownedBefore_eq, owners_eq, countOwned_rates]
  simp [Nat.lt_succ_of_le inside]

/-- No more parameters are owned than there are. -/
theorem rebase_le (place : Nat) : raw.rebase place ≤ place := by
  -- Each place counts once at most.
  simpa [rebase] using List.countP_le_length (l := List.range place)

/-- At a later place, as many or more parameters are owned. -/
theorem rebase_mono {low high : Nat} (le : low ≤ high) : raw.rebase low ≤ raw.rebase high :=
  -- The places in front of the lower one are among those in front of the higher.
  (List.range_sublist.mpr le).countP_le

/-- The parameters of a control node stay side by side: each is owned, so that all are counted. -/
theorem rebase_add {node : RawNode} (listed : node ∈ raw.nodes)
    (control : isControlOp node.op = true) {count : Nat}
    (inside : count ≤ node.outputs.size) :
    raw.rebase (node.special + count) = raw.rebase node.special + count := by
  induction count with
  | zero => rfl
  | succ count ih =>
    -- The next place is owned by this node, if not by an earlier one.
    have owned : (raw.rateAt? (node.special + count)).isSome = true := by
      rw [rateAt?, List.findSome?_isSome_iff]
      refine ⟨node, by simpa using listed, ?_⟩
      simp [RawNode.rateAt?, control, Nat.lt_of_succ_le inside]
    rw [← Nat.add_assoc, rebase_succ, if_pos owned, ih (Nat.le_of_succ_le inside), Nat.add_assoc]

/-- An owned parameter is counted at every later place. -/
theorem rebase_lt {low high : Nat} {rate : Rate} (owned : raw.rateAt? low = some rate)
    (before : low < high) :
    raw.rebase low < raw.rebase high := by
  -- The count goes up right behind the parameter and never down again.
  have next : raw.rebase (low + 1) = raw.rebase low + 1 := by
    rw [rebase_succ, owned]
    rfl
  have later : raw.rebase (low + 1) ≤ raw.rebase high := raw.rebase_mono before
  omega

/-- Every number below the count is the count in front of some owned parameter. -/
theorem exists_rebase_eq {count slot : Nat} (inside : slot < raw.rebase count) :
    ∃ place < count, ∃ rate, raw.rateAt? place = some rate ∧ raw.rebase place = slot := by
  induction count with
  | zero => cases inside
  | succ count ih =>
    -- Only an owned place adds to the count, and then the last number belongs to it.
    rw [rebase_succ] at inside
    cases owned : raw.rateAt? count with
    | none =>
      rw [owned] at inside
      obtain ⟨place, before, found⟩ := ih inside
      exact ⟨place, by omega, found⟩
    | some rate =>
      rw [owned, Option.isSome_some, if_pos rfl] at inside
      rcases Nat.lt_succ_iff_lt_or_eq.mp inside with earlier | last
      · obtain ⟨place, before, found⟩ := ih earlier
        exact ⟨place, by omega, found⟩
      · exact ⟨count, by omega, rate, owned, last.symm⟩

/-- Where all parameters are owned, none moves. -/
theorem rebase_eq (all : ∀ place < raw.defaults.size, ∃ rate, raw.rateAt? place = some rate)
    {place : Nat} (inside : place ≤ raw.defaults.size) : raw.rebase place = place := by
  -- Each place counts, so that the count keeps up.
  induction place with
  | zero => rfl
  | succ place ih =>
    obtain ⟨rate, owned⟩ := all place inside
    rw [rebase_succ, owned, ih (Nat.le_of_succ_le inside)]
    rfl

end RawDefinition

end Patchbay.Stream
