import Patchbay.Proofs.Definition.Renaming
import Patchbay.Proofs.Description.Described

/-! The order of declarations: descriptions that list the same groups and the same nodes in another
order build graphs that differ in their numbers only, so they compile and are written alike. -/

namespace Patchbay

/-- A source that follows another one into a graph with other numbers. A constant becomes some
constant with the same value. -/
def Source.Follows (node : Nat → Nat) (old new : Array Single) : Source → Source → Prop
  | .output n slot, target => target = .output (node n) slot
  | .constant i, target => ∃ j, target = .constant j ∧ new[j]? = old[i]?

/-- The constants that sources use, among those of the sources that follow them. -/
def constantPairs (sources targets : List Source) : List (Nat × Nat) :=
  (sources.filterMap Source.constant?).zip (targets.filterMap Source.constant?)

section Follows

variable {node constant : Nat → Nat} {old new : Array Single} {sources targets : List Source}

/-- Sources that follow others use as many constants. -/
theorem length_constants (follow : List.Forall₂ (Source.Follows node old new) sources targets) :
    (sources.filterMap Source.constant?).length = (targets.filterMap Source.constant?).length := by
  -- An output follows an output, and a constant follows a constant.
  induction follow with
  | nil => rfl
  | @cons source target _ _ first _ ih =>
    cases source with
    | output n slot =>
      subst first
      exact ih
    | constant i =>
      obtain ⟨j, rfl, -⟩ := first
      simpa [Source.constant?] using ih

/-- Sources that follow others are these under other numbers, as soon as the constants are numbered
by their pairs. -/
theorem map_rename_of_follows (follow : List.Forall₂ (Source.Follows node old new) sources targets)
    (numbered : ∀ pair ∈ constantPairs sources targets, constant pair.1 = pair.2) :
    targets = sources.map (Source.rename node constant) ∧
      ∀ i, .constant i ∈ sources → new[constant i]? = old[i]? := by
  induction follow with
  | nil => simp
  | @cons source target _ _ first _ ih =>
    cases source with
    | output n slot =>
      subst first
      obtain ⟨others, values⟩ := ih numbered
      exact ⟨congrArg _ others, fun i member => values i (by simpa using member)⟩
    | constant i =>
      -- The first pair is that of the two constants.
      obtain ⟨j, rfl, value⟩ := first
      have here : constant i = j := numbered (i, j) List.mem_cons_self
      obtain ⟨others, values⟩ := ih fun pair member => numbered pair (List.mem_cons_of_mem _ member)
      refine ⟨by rw [List.map_cons, ← others, Source.rename, here], fun k member => ?_⟩
      rcases List.mem_cons.mp member with same | later
      · rw [Source.constant.inj same, here, value]
      · exact values k later

end Follows

namespace Description

/-- The same description with its groups and its nodes in another order. -/
structure Reorders (one two : Description) : Prop where
  name : two.name = one.name
  controls : one.controls.Perm two.controls
  nodes : one.nodes.Perm two.nodes
  roots : two.roots = one.roots

/-- The number of a part in another description. -/
def renumber (one two : Description) (n : Nat) : Nat := (one.parts[n]?.map two.parts.idxOf).getD n

namespace Reorders

variable {one two : Description} {built other : Built}

/-- The order can be changed back. -/
theorem symm (reorders : one.Reorders two) : two.Reorders one :=
  -- Each part of the change can be undone.
  ⟨reorders.name.symm, reorders.controls.symm, reorders.nodes.symm, reorders.roots.symm⟩

/-- The same references are declared. -/
theorem declares (reorders : one.Reorders two) {reference : Reference}
    (declared : one.Declares reference) :
    two.Declares reference := by
  -- The groups and the nodes that are looked for are listed in both.
  cases reference with
  | constant value => trivial
  | control name =>
    obtain ⟨group, listed, found⟩ := declared
    exact ⟨group, reorders.controls.mem_iff.mp listed, found⟩
  | node id slot =>
    obtain ⟨entry, listed, found⟩ := declared
    exact ⟨entry, reorders.nodes.mem_iff.mp listed, found⟩

/-- Soundness is about the entries and not about their order. -/
theorem sound (reorders : one.Reorders two) (sound : one.Sound) : two.Sound where
  -- Each condition is about members, repeats or the roots, which order does not touch.
  valid :=
    { name := reorders.name ▸ sound.valid.name
      groups := fun entry listed => sound.valid.groups entry (reorders.controls.mem_iff.mpr listed)
      nodes := fun entry listed => sound.valid.nodes entry (reorders.nodes.mem_iff.mpr listed)
      roots := reorders.roots ▸ sound.valid.roots }
  controls := (reorders.controls.flatMap_right _).nodup_iff.mp sound.controls
  ids := (reorders.nodes.map _).nodup_iff.mp sound.ids
  inputs entry listed text member := by
    obtain ⟨reference, read, declared⟩ :=
      sound.inputs entry (reorders.nodes.mem_iff.mpr listed) text member
    exact ⟨reference, read, reorders.declares declared⟩
  roots text member := by
    rw [reorders.roots] at member
    obtain ⟨reference, read, declared, other⟩ := sound.roots text member
    exact ⟨reference, read, reorders.declares declared, other⟩

/-- The parts are the same up to their order. -/
theorem parts_perm (reorders : one.Reorders two) : one.parts.Perm two.parts :=
  -- Groups and nodes are reordered among themselves.
  (reorders.controls.map _).append (reorders.nodes.map _)

/-- The new number of a part is that of the same part. -/
theorem getElem?_renumber (reorders : one.Reorders two) {n : Nat} {part : Part}
    (declared : one.parts[n]? = some part) : two.parts[one.renumber two n]? = some part := by
  -- The part is listed in the other description, at the place that it is found at.
  rw [renumber, declared, Option.map_some, Option.getD_some]
  exact List.getElem?_idxOf (reorders.parts_perm.mem_iff.mp (List.mem_of_getElem? declared))

/-- A part has one number only. -/
theorem renumber_eq (sound : two.Sound) {m n : Nat} {part : Part}
    (declared : one.parts[n]? = some part)
    (there : two.parts[m]? = some part) : one.renumber two n = m := by
  -- No part is listed twice.
  obtain ⟨inside, rfl⟩ := List.getElem?_eq_some_iff.mp there
  rw [renumber, declared, Option.map_some, Option.getD_some, sound.parts_nodup.idxOf_getElem]

/-- Parts with one number are the same. -/
theorem renumber_inj (reorders : one.Reorders two) (sound : one.Sound) {m n : Nat}
    (first : m < one.parts.length)
    (second : n < one.parts.length) (same : one.renumber two m = one.renumber two n) : m = n := by
  -- No part is listed twice.
  have here := reorders.getElem?_renumber (List.getElem?_eq_getElem first)
  have there := reorders.getElem?_renumber (List.getElem?_eq_getElem second)
  rw [same, there, Option.some.injEq] at here
  exact (sound.parts_nodup.getElem_inj_iff).mp here.symm

/-- The new numbers are those of all parts. -/
theorem renumber_perm (reorders : one.Reorders two) (sound : one.Sound) :
    ((List.range one.parts.length).map (one.renumber two)).Perm (List.range two.parts.length) := by
  have distinct : ((List.range one.parts.length).map (one.renumber two)).Nodup :=
    List.nodup_range.map_on fun m first n second =>
      reorders.renumber_inj sound (List.mem_range.mp first) (List.mem_range.mp second)
  refine (List.perm_ext_iff_of_nodup distinct List.nodup_range).mpr fun m => ?_
  simp only [List.mem_map, List.mem_range]
  constructor
  · rintro ⟨n, inside, rfl⟩
    exact (List.getElem?_eq_some_iff.mp
      (reorders.getElem?_renumber (List.getElem?_eq_getElem inside))).1
  · -- The part of a new number stands somewhere in the old order.
    intro inside
    obtain ⟨n, here⟩ :=
      List.mem_iff_getElem?.mp (reorders.parts_perm.mem_iff.mpr (List.getElem_mem inside))
    exact ⟨n, (List.getElem?_eq_some_iff.mp here).1,
      renumber_eq (reorders.sound sound) here (List.getElem?_eq_getElem inside)⟩

/-- A part without its wires is the same under its new number. -/
theorem unwired_renumber (reorders : one.Reorders two) {n : Nat} {part : Part}
    (declared : one.parts[n]? = some part) :
    two.unwired.node (one.renumber two n) = one.unwired.node n := by
  -- The node is that of the same part in both.
  rw [unwired_node declared, unwired_node (reorders.getElem?_renumber declared)]

/-- What a reference denotes follows the new numbers. -/
theorem denotes_rename (reorders : one.Reorders two) (sound : one.Sound) {old new : Array Single}
    {reference : Reference} {element target : Element} (first : one.Denotes old reference element)
    (second : two.Denotes new reference target) (constant : Nat → Nat)
    (proper : ∀ value, reference ≠ .constant value) :
    target = element.rename (one.renumber two) constant := by
  have ordered := reorders.sound sound
  cases first with
  | constant given => exact absurd rfl (proper _)
  | @control group parameter n slot declared listed =>
    -- The name belongs to one parameter of one group, so both find the same one.
    generalize same : parameter.name = name at second
    cases second with
    | @control group' parameter' m slot' there found =>
      have known : group ∈ two.controls :=
        reorders.controls.mem_iff.mp (List.mem_of_getElem? (getElem?_parts_group.mp declared))
      have alike :=
        ordered.group_unique known (List.mem_of_getElem? (getElem?_parts_group.mp there))
          (List.mem_of_getElem? listed) (List.mem_of_getElem? found) same
      subst alike
      rw [ordered.slot_unique known listed found same, Element.rename,
        renumber_eq ordered declared there]
  | @node entry n declared =>
    generalize same : entry.id = id at second
    cases second with
    | @node entry' m there =>
      rw [Element.rename, unit_unique ordered.ids (reorders.getElem?_renumber declared) there same]
  | @output entry n slot declared inside =>
    generalize same : entry.id = id at second
    cases second with
    | @output entry' m slot' there inside' =>
      rw [Element.rename, unit_unique ordered.ids (reorders.getElem?_renumber declared) there same]

/-- An element and the one under its new number are taken apart alike. -/
theorem leaves_rename (reorders : one.Reorders two) {old : Array Single} {reference : Reference}
    {element : Element} (denotes : one.Denotes old reference element) (constant : Nat → Nat) :
    ((element.rename (one.renumber two) constant).leaves two.unwired).map Element.source =
      ((element.leaves one.unwired).map Element.source).map
      (Source.rename (one.renumber two) constant) := by
  cases denotes with
  | constant given => rfl
  | control declared listed => rfl
  | output declared inside => rfl
  | @node entry n declared =>
    -- The node has as many outputs under its new number.
    simp only [Element.rename, Element.leaves, reorders.unwired_renumber declared]
    split
    · rfl
    · simp only [List.map_map]
      rfl

/-- The inputs that a reference stands for follow the new numbers. -/
theorem denotes_follows (reorders : one.Reorders two) (sound : one.Sound) {old new : Array Single}
    {reference : Reference} {element target : Element} (first : one.Denotes old reference element)
    (second : two.Denotes new reference target) :
    List.Forall₂ (Source.Follows (one.renumber two) old new)
      ((element.leaves one.unwired).map Element.source)
      ((target.leaves two.unwired).map Element.source) := by
  by_cases proper : ∀ value, reference ≠ .constant value
  · have same := reorders.denotes_rename sound first second id proper
    rw [same, reorders.leaves_rename first, List.forall₂_map_right_iff, List.forall₂_same]
    intro source member
    cases source with
    | output n slot => rfl
    | constant i =>
      -- Nothing but a constant is taken apart into one.
      exfalso
      obtain ⟨leaf, part, whole⟩ := List.mem_map.mp member
      cases first with
      | constant given => exact proper _ rfl
      | control declared listed =>
        rw [List.mem_singleton.mp part] at whole
        cases whole
      | output declared inside =>
        rw [List.mem_singleton.mp part] at whole
        cases whole
      | node declared =>
        simp only [Element.leaves] at part
        split at part
        · rw [List.mem_singleton.mp part] at whole
          cases whole
        · obtain ⟨slot, -, rfl⟩ := List.mem_map.mp part
          cases whole
  · obtain ⟨value, rfl⟩ := not_forall_not.mp proper
    cases first with
    | constant given =>
      cases second with
      | constant there => exact .cons ⟨_, rfl, there.trans given.symm⟩ .nil

/-- The inputs of a part follow the new numbers. -/
theorem inputs_follow (reorders : one.Reorders two) (sound : one.Sound) {old new : Array Single}
    {texts : List Bytes}
    {elements targets : List Element} (first : List.Forall₂ (one.Means old) texts elements)
    (second : List.Forall₂ (two.Means new) texts targets) :
    List.Forall₂ (Source.Follows (one.renumber two) old new) (Element.inputs one.unwired elements)
      (Element.inputs two.unwired targets) := by
  induction first generalizing targets with
  | nil =>
    cases second
    exact .nil
  | cons here _ ih =>
    cases second with
    | cons there later =>
      -- Both read the same reference from the text.
      obtain ⟨reference, read, denotes⟩ := here
      obtain ⟨other, again, found⟩ := there
      rw [read, Except.ok.injEq] at again
      subst again
      exact List.rel_append (reorders.denotes_follows sound denotes found) (ih later)

/-- The inputs of a node follow the new numbers. -/
theorem node_follows (reorders : one.Reorders two) (sound : one.Sound) (first : one.Describes built)
    (second : two.Describes other) {n : Nat} (inside : n < built.graph.nodes.size) :
    List.Forall₂ (Source.Follows (one.renumber two) built.graph.constants other.graph.constants)
      (built.graph.node n).inputs (other.graph.node (one.renumber two n)).inputs := by
  -- Both nodes are those of one part, and the texts mean what follows the numbers.
  obtain ⟨part, declared⟩ := first.exists_part inside
  obtain ⟨elements, meanings, same⟩ := first.node declared
  obtain ⟨targets, others, alike⟩ := second.node (reorders.getElem?_renumber declared)
  rw [same, alike]
  exact reorders.inputs_follow sound meanings others

end Reorders

/-- The constants of a graph that are used in the same places as those of another. -/
def pairs (one two : Description) (built other : Built) : List (Nat × Nat) :=
  (List.range built.graph.nodes.size).flatMap fun n =>
    constantPairs (built.graph.node n).inputs (other.graph.node (one.renumber two n)).inputs

/-- The number of a constant in the graph of another description. -/
def renumberConstant (one two : Description) (built other : Built) (index : Nat) : Nat :=
  ((one.pairs two built other).lookup index).getD 0

/-- The nodes of a graph in the order of their numbers. -/
theorem toList_nodes (graph : Graph) :
    graph.nodes.toList = (List.range graph.nodes.size).map graph.node := by
  -- Both lists have the node of a number at its place.
  refine List.ext_getElem (by simp) fun n _ inside => ?_
  simp only [List.length_map, List.length_range] at inside
  simp [Graph.node, inside]

namespace Reorders

variable {one two : Description} {built other : Built}

/-- Every constant of the first graph is in one pair only. -/
theorem nodup_fst (reorders : one.Reorders two) (sound : one.Sound) (first : one.Describes built)
    (second : two.Describes other) : ((one.pairs two built other).map Prod.fst).Nodup := by
  -- The first halves of the pairs are the constants of all nodes in order, and these are numbered
  -- through.
  have all : (one.pairs two built other).map Prod.fst = List.range built.graph.constants.size := by
    rw [← first.constants, toList_nodes, List.flatMap_map, pairs, List.map_flatMap]
    refine List.flatMap_congr fun n inside => ?_
    exact List.map_fst_zip (Nat.le_of_eq (length_constants
      (reorders.node_follows sound first second (List.mem_range.mp inside))))
  rw [all]
  exact List.nodup_range

/-- Every constant of the second graph is in one pair only. -/
theorem nodup_snd (reorders : one.Reorders two) (sound : one.Sound) (first : one.Describes built)
    (second : two.Describes other) : ((one.pairs two built other).map Prod.snd).Nodup := by
  -- The nodes of the second graph are visited in another order.
  have all : (one.pairs two built other).map Prod.snd =
      ((List.range one.parts.length).map (one.renumber two)).flatMap fun n =>
        (other.graph.node n).constants := by
    rw [List.flatMap_map, pairs, List.map_flatMap, ← first.size]
    refine List.flatMap_congr fun n inside => ?_
    exact List.map_snd_zip (Nat.le_of_eq (length_constants
      (reorders.node_follows sound first second (List.mem_range.mp inside))).symm)
  have constants := second.constants
  rw [toList_nodes, List.flatMap_map, second.size] at constants
  rw [all, ((reorders.renumber_perm sound).flatMap_right _).nodup_iff]
  exact constants ▸ List.nodup_range

/-- A constant has the number of its pair. -/
theorem renumberConstant_eq (reorders : one.Reorders two) (sound : one.Sound)
    (first : one.Describes built)
    (second : two.Describes other) {pair : Nat × Nat} (listed : pair ∈ one.pairs two built other) :
    one.renumberConstant two built other pair.1 = pair.2 := by
  -- No constant has two pairs.
  have found : (one.pairs two built other).lookup pair.1 = some pair.2 :=
    lookup_eq_of_unique listed fun target member =>
      congrArg Prod.snd
        (List.inj_on_of_nodup_map (reorders.nodup_fst sound first second) member listed rfl)
  rw [renumberConstant, found, Option.getD_some]

/-- The inputs of a node are those of its new number under their new numbers, and its constants keep
their values. -/
theorem inputs_rename (reorders : one.Reorders two) (sound : one.Sound)
    (first : one.Describes built)
    (second : two.Describes other) {n : Nat} (inside : n < built.graph.nodes.size) :
    (other.graph.node (one.renumber two n)).inputs = (built.graph.node n).inputs.map
        (Source.rename (one.renumber two) (one.renumberConstant two built other)) ∧
      ∀ i, .constant i ∈ (built.graph.node n).inputs →
        other.graph.constants[one.renumberConstant two built other i]? =
          built.graph.constants[i]? :=
  -- Each input has a pair among those of its node.
  map_rename_of_follows (reorders.node_follows sound first second inside) fun _ listed =>
    reorders.renumberConstant_eq sound first second
      (List.mem_flatMap.mpr ⟨n, List.mem_range.mpr inside, listed⟩)

/-- A constant that a node uses is in a pair. -/
theorem exists_pair (reorders : one.Reorders two) (sound : one.Sound) (first : one.Describes built)
    (second : two.Describes other) {n index : Nat} (inside : n < built.graph.nodes.size)
    (used : .constant index ∈ (built.graph.node n).inputs) :
    ∃ pair ∈ one.pairs two built other, pair.1 = index := by
  have follow := reorders.node_follows sound first second inside
  -- No constant is left over, as both nodes use as many.
  have listed : index ∈ (constantPairs (built.graph.node n).inputs
      (other.graph.node (one.renumber two n)).inputs).map Prod.fst := by
    rw [constantPairs, List.map_fst_zip (Nat.le_of_eq (length_constants follow))]
    exact List.mem_filterMap.mpr ⟨_, used, rfl⟩
  obtain ⟨pair, member, same⟩ := List.mem_map.mp listed
  exact ⟨pair, List.mem_flatMap.mpr ⟨n, List.mem_range.mpr inside, member⟩, same⟩

/-- The roots are named under their new numbers. -/
theorem roots_rename (reorders : one.Reorders two) (sound : one.Sound) (first : one.Describes built)
    (second : two.Describes other) (constant : Nat → Nat) :
    other.roots = built.roots.map (Element.rename (one.renumber two) constant) := by
  have here := first.roots
  have there := second.roots
  have proper := sound.roots
  rw [reorders.roots] at there
  generalize one.roots.getD [] = texts at here there proper
  generalize built.roots = elements at here ⊢
  generalize other.roots = targets at there ⊢
  -- The roots are compared text by text.
  induction here generalizing targets with
  | nil =>
    cases there
    rfl
  | cons means _ ih =>
    cases there with
    | cons found later =>
      rw [List.forall_mem_cons] at proper
      obtain ⟨reference, read, denotes⟩ := means
      obtain ⟨again, same, target⟩ := found
      obtain ⟨known, alike, -, named⟩ := proper.1
      rw [read, Except.ok.injEq] at same alike
      subst same alike
      rw [List.map_cons, reorders.denotes_rename sound denotes target constant named,
        ih proper.2 _ later]

/-- The graph of a description is found in that of a reordered one under other numbers. -/
theorem renames (reorders : one.Reorders two) (sound : one.Sound) (first : one.Describes built)
    (second : two.Describes other) :
    Renames (one.renumber two)
      (one.renumberConstant two built other) built.graph built.roots other.graph
      other.roots := by
  -- Whatever the roots refer to is a part of the description.
  have inside : ∀ n, built.graph.Refers built.roots n → n < built.graph.nodes.size :=
    fun n refers =>
      (first.linked sound.valid).lt_of_refers (fun _ => first.rooted) refers
  refine ⟨?_, ?_, ?_, ?_, ?_, reorders.roots_rename sound first second _⟩
  · intro m here n there same
    exact reorders.renumber_inj sound (first.size ▸ inside m here)
      (first.size ▸ inside n there) same
  · -- Two constants with one new number share their pair.
    rintro i ⟨m, here, used⟩ j ⟨n, there, alsoUsed⟩ same
    obtain ⟨pair, listed, rfl⟩ := reorders.exists_pair sound first second (inside m here) used
    obtain ⟨twin, member, rfl⟩ := reorders.exists_pair sound first second (inside n there) alsoUsed
    rw [reorders.renumberConstant_eq sound first second listed,
      reorders.renumberConstant_eq sound first second member] at same
    rw [List.inj_on_of_nodup_map (reorders.nodup_snd sound first second) listed member same]
  · intro n refers
    obtain ⟨part, declared⟩ := first.exists_part (inside n refers)
    have bound := (List.getElem?_eq_some_iff.mp (reorders.getElem?_renumber declared)).1
    rw [second.size]
    exact iff_of_true bound (inside n refers)
  · intro n refers
    obtain ⟨part, declared⟩ := first.exists_part (inside n refers)
    obtain ⟨_, -, here⟩ := first.node declared
    obtain ⟨_, -, there⟩ := second.node (reorders.getElem?_renumber declared)
    have inputs := (reorders.inputs_rename sound first second (inside n refers)).1
    refine ⟨?_, ?_, ?_, ?_, ?_, inputs⟩
    · rw [here, there]
    · rw [here, there]
    · rw [here, there]
    · rw [here, there]
    · rw [here, there]
      rfl
  · rintro index ⟨n, refers, used⟩
    rw [Graph.constant, Graph.constant,
      (reorders.inputs_rename sound first second (inside n refers)).2 index used]

end Reorders

end Description

/-- The order of declarations does not matter. A description builds exactly when the same one does
with its groups and its nodes in another order. Both then fail to compile with the same fault, or
compile to definitions that are written to the same bytes or refused with the same fault. -/
theorem build_reordered (one two : Description) (reorders : one.Reorders two) :
    ((∃ built, one.build = .ok built) ↔ ∃ other, two.build = .ok other) ∧
      ∀ built other, one.build = .ok built → two.build = .ok other →
        built.name = other.name ∧ ∀ rule name,
          (∃ fault, compile built.graph built.roots rule name = .error fault ∧
            compile other.graph other.roots rule name = .error fault) ∨
          ∃ definition reordered, compile built.graph built.roots rule name = .ok definition ∧
            compile other.graph other.roots rule name = .ok reordered ∧
            ∀ strict, Stream.encode strict [definition] = Stream.encode strict [reordered] := by
  refine ⟨?_, fun built other here there => ?_⟩
  · rw [one.build_yields.exists_ok_iff, two.build_yields.exists_ok_iff]
    exact ⟨reorders.sound, reorders.symm.sound⟩
  · obtain ⟨sound, describes⟩ := Description.of_build here
    have others := (Description.of_build there).2
    refine ⟨by rw [describes.name, others.name, reorders.name], fun rule name => ?_⟩
    -- The two graphs differ in their numbers only.
    rcases (reorders.renames sound describes others).compile_rename rule name with failed | compiled
    · exact .inl failed
    · obtain ⟨definition, reordered, one, two, alike⟩ := compiled
      exact .inr
        ⟨definition, reordered, one, two, fun strict => (Stream.encode_alike alike strict).symm⟩

/-- The oscillator and the envelope with all declarations in reverse. -/
def voiceReversed : Description :=
  { voice with controls := voice.controls.reverse, nodes := voice.nodes.reverse }

/-- The oscillator and the envelope are written to the same bytes when they are declared in
reverse. -/
theorem voice_reordered :
    voice.Reorders voiceReversed ∧ ∃ other reordered, voiceReversed.build = .ok other ∧
      compile other.graph other.roots .value (utf8 "voice") = .ok reordered ∧
      ∀ strict, Stream.encode strict [voiceDefinition] = Stream.encode strict [reordered] := by
  -- Reversing is a change of order, and the voice is built and compiled.
  have reorders : voice.Reorders voiceReversed :=
    ⟨rfl, (List.reverse_perm _).symm, (List.reverse_perm _).symm, rfl⟩
  obtain ⟨builds, alike⟩ := build_reordered voice voiceReversed reorders
  obtain ⟨other, success⟩ := builds.mp ⟨voiceBuilt, voice_built⟩
  refine ⟨reorders, other, ?_⟩
  rcases (alike voiceBuilt other voice_built success).2 .value (utf8 "voice") with
    ⟨fault, failed, -⟩ | ⟨definition, reordered, compiled, also, same⟩
  · rw [voice_compiled] at failed
    cases failed
  · rw [voice_compiled, Except.ok.injEq] at compiled
    exact ⟨reordered, success, also, compiled ▸ same⟩

end Patchbay
