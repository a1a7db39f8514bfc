import Patchbay.Proofs.Definition.Alike
import Patchbay.Proofs.Definition.Compile
import Patchbay.Proofs.Graph.Renaming

/-! Compilation of renamed graphs: what a compilation gives depends on what the roots refer to and
not on the numbers of the nodes and constants. -/

namespace Patchbay

/-- A key under other numbers. -/
def ConstantKey.rename (constant : Nat → Nat) : ConstantKey → ConstantKey
  | .number n => .number (constant n)
  | .bits word => .bits word

/-- Under other numbers, the same constants are the first ones with their keys, as long as keys that
differ stay different and keys that are equal stay equal. -/
theorem firstByKey_rename {key other : Nat → ConstantKey} {rename : Nat → Nat}
    {constants : List Nat}
    (keys : ∀ a ∈ constants, ∀ b ∈ constants, other (rename a) = other (rename b) ↔ key a = key b) :
    firstByKey other (constants.map rename) = (firstByKey key constants).map rename := by
  -- The last constant is kept under both numbers or under neither.
  induction constants using List.reverseRecOn with
  | nil => rfl
  | append_singleton constants last ih =>
    have before : ∀ a ∈ constants, ∀ b ∈ constants, other (rename a) = other (rename b) ↔
        key a = key b :=
      fun a here b there => keys a (List.mem_append_left _ here) b (List.mem_append_left _ there)
    have known : other (rename last) ∈ (constants.map rename).map other ↔
        key last ∈ constants.map key := by
      rw [List.map_map, List.mem_map, List.mem_map]
      refine exists_congr fun a => and_congr_right fun here => ?_
      exact keys a (List.mem_append_left _ here) last (List.mem_append_right _ List.mem_cons_self)
    rw [List.map_append, List.map_singleton, firstByKey_concat, firstByKey_concat,
      if_congr known rfl rfl, ih before]
    split
    · rfl
    · rw [List.map_append, List.map_singleton]

namespace Renames

variable {node constant : Nat → Nat} {one two : Graph} {first second : List Element}

/-- The key of a constant is that of its other number under the other numbers. -/
theorem key_rename (renames : Renames node constant one first two second) (rule : Dedup)
    {index : Nat}
    (used : one.Uses first index) :
    rule.key two (constant index) = (rule.key one index).rename constant := by
  -- A key is the value of a constant, which is kept, or its number.
  cases rule with
  | value => simp only [Dedup.key, ConstantKey.rename, renames.value index used]
  | identity => rfl
  | other code => rfl

/-- Keys of constants that are used stay different. -/
theorem keysApart (renames : Renames node constant one first two second) (rule : Dedup) :
    Set.InjOn (ConstantKey.rename constant)
      {k | ∃ index, one.Uses first index ∧ rule.key one index = k} := by
  -- Equal values have equal keys anyway, and different numbers stay different.
  rintro _ ⟨a, here, rfl⟩ _ ⟨b, there, rfl⟩ same
  cases rule with
  | value => exact same
  | identity =>
    exact congrArg ConstantKey.number
      (renames.constantsApart here there (ConstantKey.number.inj same))
  | other code =>
    exact congrArg ConstantKey.number
      (renames.constantsApart here there (ConstantKey.number.inj same))

/-- What listed nodes take inputs from is used. -/
theorem uses_of_mem {graph : Graph} {roots : List Element} {nodes : List Nat}
    (listed : ∀ n ∈ nodes, graph.Refers roots n) {index : Nat}
    (member : index ∈ nodes.flatMap fun n => (graph.node n).inputs.filterMap Source.constant?) :
    graph.Uses roots index := by
  -- A listed node has the constant among its inputs.
  obtain ⟨n, collected, among⟩ := List.mem_flatMap.mp member
  obtain ⟨source, input, same⟩ := List.mem_filterMap.mp among
  cases source with
  | output producer slot => cases same
  | constant other =>
    rw [Source.constant?, Option.some.injEq] at same
    exact ⟨n, listed n collected, same ▸ input⟩

/-- The constants that listed nodes use are those of their other numbers under the other numbers. -/
theorem usedConstants_rename (renames : Renames node constant one first two second) (rule : Dedup)
    {nodes : List Nat} (listed : ∀ n ∈ nodes, one.Refers first n) :
    usedConstants two rule (nodes.map node) = (usedConstants one rule nodes).map constant := by
  -- The inputs follow the numbers, and constants with one key are dropped in both graphs alike.
  have sources :
      (nodes.map node).flatMap (fun n => (two.node n).inputs.filterMap Source.constant?) =
        (nodes.flatMap fun n => (one.node n).inputs.filterMap Source.constant?).map constant := by
    rw [List.flatMap_map, List.map_flatMap]
    refine List.flatMap_congr fun n member => ?_
    rw [(renames.kept n (listed n member)).inputs, List.filterMap_map, List.map_filterMap]
    refine List.filterMap_congr fun source _ => ?_
    cases source <;> rfl
  rw [usedConstants, usedConstants, sources]
  refine firstByKey_rename fun a here b there => ?_
  have left := uses_of_mem listed here
  have right := uses_of_mem listed there
  rw [renames.key_rename rule left, renames.key_rename rule right]
  exact (renames.keysApart rule).eq_iff ⟨a, left, rfl⟩ ⟨b, right, rfl⟩

/-- A node brings the same parameters into the control table under its other number. -/
theorem owned_rename (renames : Renames node constant one first two second) {n : Nat}
    (refers : one.Refers first n) :
    two.owned (node n) = one.owned n := by
  -- What a node brings is read off its operator, descriptors and outputs, which are kept.
  have kept := renames.kept n refers
  simp only [Graph.owned, Node.parameters, kept.op, kept.descriptors, kept.outputs]

/-- Listed nodes bring the same parameters into the control table under their other numbers. -/
theorem flatMap_owned_rename (renames : Renames node constant one first two second)
    {nodes : List Nat}
    (listed : ∀ n ∈ nodes, one.Refers first n) :
    (nodes.map node).flatMap two.owned = nodes.flatMap one.owned := by
  -- Each node brings the same.
  rw [List.flatMap_map]
  exact List.flatMap_congr fun n member => renames.owned_rename (listed n member)

/-- A node at a place has the same special index under its other number. -/
theorem placedSpecial_rename (renames : Renames node constant one first two second)
    {nodes : List Nat}
    (listed : ∀ n ∈ nodes, one.Refers first n) (place : Nat) {n : Nat}
    (refers : one.Refers first n) :
    placedSpecial two (nodes.map node) place (node n) = placedSpecial one nodes place n := by
  -- A control node counts the parameters in front of it, and these are the same.
  have kept := renames.kept n refers
  have before : segmentStart two (nodes.map node) place = segmentStart one nodes place := by
    rw [segmentStart, segmentStart, ← List.map_take]
    exact congrArg _
      (renames.flatMap_owned_rename fun m member => listed m (List.mem_of_mem_take member))
  simp only [placedSpecial, kept.op, kept.special, before]

/-- A listed node is found at the same place under its other number. -/
theorem idxOf_rename {known : Nat → Prop} (apart : Set.InjOn node {n | known n}) {nodes : List Nat}
    (listed : ∀ n ∈ nodes, known n) {n : Nat} (here : known n) :
    (nodes.map node).idxOf (node n) = nodes.idxOf n := by
  -- The search compares numbers that stay different.
  induction nodes with
  | nil => rfl
  | cons m rest ih =>
    obtain ⟨head, later⟩ := List.forall_mem_cons.mp listed
    have same : (node m == node n) = (m == n) := by
      rw [Bool.eq_iff_iff, beq_iff_eq, beq_iff_eq, apart.eq_iff head here]
    rw [List.map_cons, List.idxOf_cons, List.idxOf_cons, same, ih later]

/-- The definition of a sequence of nodes, and that of the same sequence under the other numbers. -/
theorem defined_nodes (renames : Renames node constant one first two second) (rule : Dedup)
    (name : Bytes) {order : List Nat} (listed : ∀ n ∈ order, one.Refers first n) :
    (defined two second rule name (order.map node)).nodes =
      (defined one first rule name order).nodes.map fun placed =>
        ⟨node placed.node, placed.special⟩ := by
  have collected : ∀ n ∈ reached one first, one.Refers first n :=
    fun n member => (mem_reached_iff.mp member).2
  simp only [defined, List.map_map]
  refine List.map_congr_left fun n member => ?_
  have refers := listed n member
  -- The node was collected at the same place, and so it has the same special index.
  rw [Function.comp_apply, Function.comp_apply, renames.reached_rename,
    idxOf_rename renames.apart collected refers, renames.placedSpecial_rename collected _ refers]

/-- A node stands in the same row under its other number. -/
theorem rows_rename (renames : Renames node constant one first two second) (rule : Dedup)
    (name : Bytes)
    {order : List Nat} (listed : ∀ n ∈ order, one.Refers first n) {n : Nat}
    (refers : one.Refers first n) :
    (defined two second rule name (order.map node)).rows[node n]? =
      (defined one first rule name order).rows[n]? := by
  -- The table of rows is filled from both node tables in the same order.
  rw [Definition.rows, Definition.rows, renames.defined_nodes rule name listed, List.zipIdx_map,
    List.foldl_map]
  refine (fills_insert (fun item : Placed × Nat => item.1.node) Prod.snd).rename
    (fills_insert (fun item : Placed × Nat => node item.1.node) Prod.snd)
      (fun _ _ => rfl) renames.apart
    (fun item member => ?_) refers
  have row := List.mem_of_getElem? (List.mem_zipIdx_iff_getElem?.mp member)
  obtain ⟨m, among, same⟩ := List.mem_map.mp row
  rw [← same]
  exact listed m among

/-- The constants of the definition are those of the other definition under the other numbers. -/
theorem defined_constants (renames : Renames node constant one first two second) (rule : Dedup)
    (name : Bytes) (order : List Nat) : (defined two second rule name (order.map node)).constants =
      (defined one first rule name order).constants.map constant := by
  -- The same nodes are reached, and they use the same constants.
  simp only [defined, renames.reached_rename]
  exact renames.usedConstants_rename rule fun n member => (mem_reached_iff.mp member).2

/-- Only constants that are used stand in the constant table. -/
theorem uses_of_defined {rule : Dedup} {name : Bytes} {order : List Nat} {index : Nat}
    (member : index ∈ (defined one first rule name order).constants) : one.Uses first index :=
  -- A constant of the table is one of those of the nodes that are reached.
  uses_of_mem (fun _ collected => (mem_reached_iff.mp collected).2) (mem_of_mem_firstByKey member)

/-- A constant has the same slot under its other number. -/
theorem slots_rename (renames : Renames node constant one first two second) (rule : Dedup)
    (name : Bytes) (order : List Nat) {index : Nat} (used : one.Uses first index) :
    (defined two second rule name (order.map node)).slots[rule.key two (constant index)]? =
      (defined one first rule name order).slots[rule.key one index]? := by
  -- The table of slots is filled from both constant tables in the same order.
  rw [Definition.slots, Definition.slots, renames.defined_constants rule name order,
    List.zipIdx_map, List.foldl_map, renames.key_rename rule used]
  have listed : ∀ item ∈ (defined one first rule name order).constants.zipIdx,
      one.Uses first item.1 :=
    fun item member =>
      uses_of_defined (List.mem_of_getElem? (List.mem_zipIdx_iff_getElem?.mp member))
  exact (fills_insertIfNew (fun item : Nat × Nat => rule.key one item.1) Prod.snd).rename
    (fills_insertIfNew (fun item : Nat × Nat => rule.key two (constant item.1)) Prod.snd)
    (fun item member => renames.key_rename rule (listed item member)) (renames.keysApart rule)
    (fun item member => ⟨item.1, listed item member, rfl⟩) ⟨index, used, rfl⟩

/-- Definitions of the same sequence of nodes under both numbers are alike. -/
theorem defined_alike (renames : Renames node constant one first two second) (rule : Dedup)
    (name : Bytes) {order : List Nat} (listed : ∀ n ∈ order, one.Refers first n) :
    (defined one first rule name order).Alike (defined two second rule name (order.map node)) := by
  refine ⟨rfl, ?_, ?_, ?_⟩
  · -- A constant has the same value under its other number.
    rw [renames.defined_constants rule name order, List.map_map]
    exact List.map_congr_left fun index member => renames.value index (uses_of_defined member)
  · show (reached two second).flatMap two.owned = (reached one first).flatMap one.owned
    rw [renames.reached_rename]
    exact renames.flatMap_owned_rename fun n member => (mem_reached_iff.mp member).2
  · -- Each row holds the same node, under one number and under the other.
    rw [renames.defined_nodes rule name listed, List.forall₂_map_right_iff, List.forall₂_same]
    intro placed row
    obtain ⟨n, member, rfl⟩ := List.mem_map.mp row
    have refers := listed n member
    have kept := renames.kept n refers
    refine ⟨kept.op, kept.rate, kept.outputs, rfl, ?_⟩
    show List.Forall₂ _ (one.node n).inputs (two.node (node n)).inputs
    rw [kept.inputs, List.forall₂_map_right_iff, List.forall₂_same]
    intro source input
    cases source with
    | output producer slot =>
      have feeder := refers.of_feeds (Graph.feeds_iff.mpr ⟨slot, input⟩)
      have fed := renames.kept producer feeder
      exact .output (renames.rows_rename rule name listed feeder) fed.op
        (congrArg Array.size fed.outputs)
    | constant index =>
      have used : one.Uses first index := ⟨n, refers, input⟩
      exact .constant (renames.slots_rename rule name order used) (renames.value index used)

/-- Both graphs fail to be arranged with the same fault, or are arranged into definitions that are
alike. -/
theorem arrange_rename (renames : Renames node constant one first two second) (rule : Dedup)
    (name : Bytes) :
    (∃ fault, arrange one first rule name = .error fault ∧
      arrange two second rule name = .error fault) ∨
      ∃ definition other, arrange one first rule name = .ok definition ∧
        arrange two second rule name = .ok other ∧ definition.Alike other := by
  -- The same nodes are collected, and their sequence fails or goes the same way.
  have collected : ∀ n ∈ reached one first, one.Refers first n :=
    fun n member => (mem_reached_iff.mp member).2
  have same := renames.sequence_rename collected
  rw [arrange_eq, arrange_eq, renames.reached_rename, same]
  cases sequenced : sequence one (reached one first) with
  | error fault => exact .inl ⟨_, rfl, rfl⟩
  | ok order =>
    refine .inr ⟨_, _, rfl, rfl, renames.defined_alike rule name fun n member => ?_⟩
    exact collected n ((sequence_perm sequenced).mem_iff.mp member)

/-- Both graphs fail to compile with the same fault, or compile to definitions that are alike. -/
theorem compile_rename (renames : Renames node constant one first two second) (rule : Dedup)
    (name : Bytes) :
    (∃ fault, compile one first rule name = .error fault ∧
      compile two second rule name = .error fault) ∨
      ∃ definition other, compile one first rule name = .ok definition ∧
        compile two second rule name = .ok other ∧ definition.Alike other := by
  rcases renames.arrange_rename rule name with
    ⟨fault, failed, other⟩ | ⟨definition, other, arranged, also, alike⟩
  · exact .inl
      ⟨fault, compile_eq_error_iff.mpr (.inl failed), compile_eq_error_iff.mpr (.inl other)⟩
  · -- What is arranged is alike, and so it is checked alike.
    cases checked : definition.check with
    | error fault =>
      exact .inl ⟨fault, compile_eq_error_iff.mpr (.inr ⟨_, arranged, checked⟩),
        compile_eq_error_iff.mpr (.inr ⟨_, also, alike.check.trans checked⟩)⟩
    | ok result =>
      exact .inr ⟨definition, other, compile_eq_ok_iff.mpr ⟨arranged, checked⟩,
        compile_eq_ok_iff.mpr ⟨also, alike.check.trans checked⟩, alike⟩

end Renames

/-- What a compilation gives depends on the structure of a graph and not on the numbers of its nodes
and constants. Where the part that the roots refer to stands in two graphs under different numbers,
both fail to compile with the same fault, or both compile and are then written alike: as the same
bytes, or with the same fault. -/
theorem compile_isomorphic {node constant : Nat → Nat} {one two : Graph}
    {first second : List Element}
    (renames : Renames node constant one first two second) (rule : Dedup) (name : Bytes) :
    (∃ fault, compile one first rule name = .error fault ∧
      compile two second rule name = .error fault) ∨
      ∃ definition other, compile one first rule name = .ok definition ∧
        compile two second rule name = .ok other ∧
        ∀ strict, Stream.encode strict [definition] = Stream.encode strict [other] := by
  -- Definitions that are alike are written alike.
  rcases renames.compile_rename rule name with failed | ⟨definition, other, compiled, also, alike⟩
  · exact .inl failed
  · exact .inr
      ⟨definition, other, compiled, also, fun strict => (Stream.encode_alike alike strict).symm⟩

/-- The diamond with its nodes and constants in another order, among them a node that its roots do
not reach. -/
def shuffledDiamond : Graph where
  nodes := #[
    ⟨utf8 "Out", .audio, [.constant 0, .output 1 0, .output 4 0], #[], 0, none⟩,
    ⟨utf8 "BinaryOpUGen", .audio, [.output 4 0, .output 3 1], #[.audio], 2, none⟩,
    ⟨utf8 "WhiteNoise", .audio, [.output 0 0], #[.audio], 0, none⟩,
    ⟨utf8 "Control", .control, [], #[.control, .control], 7,
      some [⟨utf8 "freq", .audio, ⟨0x43dc0000⟩, .zero⟩]⟩,
    ⟨utf8 "SinOsc", .audio, [.output 3 0, .constant 1], #[.audio], 0, none⟩]
  constants := #[.zero, .zero]

/-- The number of a node of the diamond in the other order. -/
def shuffle (n : Nat) : Nat := [3, 4, 1, 0].getD n 0

/-- The diamond stands in the shuffled graph under other numbers. -/
theorem diamond_renames :
    Renames shuffle (1 - ·) diamond diamondRoots shuffledDiamond [.node 0, .channel 3 1] := by
  have inside : ∀ n, diamond.Refers diamondRoots n → n < 4 := fun n refers =>
    Graph.Linked.lt_of_refers (by decide) (by decide) refers
  have nodes :
      ∀ n < 4, (diamond.node n).Renamed shuffle (1 - ·) (shuffledDiamond.node (shuffle n)) := by
    decide
  -- Each of the two constants is used by one node.
  have used : ∀ index, diamond.Uses diamondRoots index → index < 2 := by
    rintro index ⟨n, refers, input⟩
    have bound : ∀ n < 4, ∀ source ∈ (diamond.node n).inputs, ∀ index,
        source.constant? = some index → index < 2 := by
      decide
    exact bound n (inside n refers) _ input index rfl
  refine ⟨?_, ?_, ?_, fun n refers => nodes n (inside n refers), ?_, rfl⟩
  · intro a here b there same
    have apart : ∀ a < 4, ∀ b < 4, shuffle a = shuffle b → a = b := by decide
    exact apart a (inside a here) b (inside b there) same
  · intro a here b there same
    have left := used a here
    have right := used b there
    simp only at same
    omega
  · intro n refers
    have bound : ∀ n < 4, (shuffle n < shuffledDiamond.nodes.size ↔ n < diamond.nodes.size) := by
      decide
    exact bound n (inside n refers)
  · intro index uses
    have bound : ∀ index < 2, shuffledDiamond.constant (1 - index) = diamond.constant index := by
      decide
    exact bound index (used index uses)

/-- The shuffled diamond compiles since the diamond does, and is written as the same bytes. -/
theorem shuffled_isomorphic :
    Renames shuffle (1 - ·) diamond diamondRoots shuffledDiamond [.node 0, .channel 3 1] ∧
      ∃ other, compile shuffledDiamond [.node 0, .channel 3 1] .value (utf8 "diamond") = .ok other ∧
        ∀ strict, Stream.encode strict [diamondDefinition] = Stream.encode strict [other] := by
  -- The diamond compiles, so that the other case does not arise.
  refine ⟨diamond_renames, ?_⟩
  rcases compile_isomorphic diamond_renames .value (utf8 "diamond") with
    ⟨fault, failed, _⟩ | ⟨definition, other, compiled, also, written⟩
  · rw [diamond_compiled] at failed
    cases failed
  · rw [diamond_compiled, Except.ok.injEq] at compiled
    exact ⟨other, also, compiled ▸ written⟩

end Patchbay
