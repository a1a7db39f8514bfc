import Patchbay.Proofs.Definition.Arrange

/-! Compiled definitions: when compilation succeeds and how it fails, what the node table of a
compiled definition holds, and how its control nodes share out the control table. -/

namespace Patchbay

/-- A source that exists: an output that its node has, or any constant. -/
def Graph.Provides (graph : Graph) : Source → Prop
  | .output producer slot => 0 ≤ slot ∧ slot < (graph.node producer).outputs.size
  | .constant _ => True

instance (graph : Graph) : DecidablePred graph.Provides
  | .output producer slot =>
    inferInstanceAs (Decidable (0 ≤ slot ∧ slot < (graph.node producer).outputs.size))
  | .constant _ => .isTrue trivial

/-- An output that exists belongs to a node of the graph. A number outside of it stands for a node
without outputs. -/
theorem Graph.lt_size_of_provides {graph : Graph} {producer : Nat} {slot : Int}
    (provides : graph.Provides (.output producer slot)) : producer < graph.nodes.size := by
  -- A blank node has no output that could exist.
  by_contra outside
  have blank : graph.node producer = .blank := by
    simp [Graph.node, Array.getElem?_eq_none (Nat.le_of_not_lt outside)]
  obtain ⟨low, high⟩ := provides
  rw [blank] at high
  simp only [Node.blank, List.size_toArray, List.length_nil] at high
  omega

/-- A node with valid rates whose inputs all exist. -/
structure Graph.NodeSound (graph : Graph) (n : Nat) : Prop where
  rate : (graph.node n).rate.valid = true
  outputs : ∀ rate ∈ (graph.node n).outputs, rate.valid = true
  inputs : ∀ source ∈ (graph.node n).inputs, graph.Provides source

instance (graph : Graph) (n : Nat) : Decidable (graph.NodeSound n) :=
  decidable_of_iff
    ((graph.node n).rate.valid = true ∧ (∀ rate ∈ (graph.node n).outputs, rate.valid = true) ∧
      ∀ source ∈ (graph.node n).inputs, graph.Provides source)
    ⟨fun ⟨rate, outputs, inputs⟩ => ⟨rate, outputs, inputs⟩,
      fun ⟨rate, outputs, inputs⟩ => ⟨rate, outputs, inputs⟩⟩

/-- A control node covers the places of the control table from its special index on, one for each
output. -/
def Definition.Covers (definition : Definition) (placed : Placed) (slot : Int) : Prop :=
  isControlOp (definition.graph.node placed.node).op = true ∧ placed.special ≤ slot ∧
    slot < placed.special + (definition.graph.node placed.node).outputs.size

namespace Arranged

variable {graph : Graph} {roots : List Element} {rule : Dedup} {name : Bytes}
  {definition : Definition}
  {row : Nat} {placed : Placed}

/-- A row of an arranged definition is sound exactly when its node is. -/
theorem rowSound_iff (arranged : Arranged graph roots rule name definition)
    (here : definition.nodes[row]? = some placed) :
    definition.RowSound row placed ↔ graph.NodeSound placed.node := by
  have same := arranged.graph_eq
  constructor
  · -- An input that resolves exists.
    rintro ⟨rate, outputs, inputs, _⟩
    rw [same] at rate outputs inputs
    refine ⟨rate, outputs, fun source member => ?_⟩
    have resolved := inputs source member
    cases source with
    | output producer slot => exact same ▸ resolved.2
    | constant constant => trivial
  · -- An input that exists also resolves, since the tables were made from these nodes.
    rintro ⟨rate, outputs, inputs⟩
    refine ⟨same ▸ rate, same ▸ outputs, ?_, fun control => ?_⟩
    · intro source member
      rw [same] at member
      cases source with
      | output producer slot =>
        have present : 0 ≤ slot ∧ slot < (graph.node producer).outputs.size := inputs _ member
        have feeds := Graph.feeds_iff.mpr ⟨slot, member⟩
        have inside := Graph.lt_size_of_provides (inputs _ member)
        exact ⟨arranged.exists_row_lt here feeds ((arranged.reaches here).of_feeds feeds inside),
          same ▸ present⟩
      | constant constant => exact arranged.exists_slot here member
    · rw [same] at control ⊢
      exact arranged.parameters here control

/-- An arranged definition passes the check exactly when all nodes that the roots reach are
sound. -/
theorem check_iff (arranged : Arranged graph roots rule name definition) :
    definition.check = .ok () ↔ ∀ n, graph.Reaches roots n → graph.NodeSound n := by
  -- The rows are those of the reached nodes.
  rw [Definition.check_eq_ok_iff]
  constructor
  · intro sound n reaches
    obtain ⟨placed, listed, rfl⟩ := List.mem_map.mp (arranged.mem_nodes_iff.mpr reaches)
    obtain ⟨row, here⟩ := List.mem_iff_getElem?.mp listed
    exact (arranged.rowSound_iff here).mp (sound row placed here)
  · intro sound row placed here
    exact (arranged.rowSound_iff here).mpr (sound _ (arranged.reaches here))

/-- A producer with a row of its own stands before the rows that it feeds. -/
theorem row_lt (arranged : Arranged graph roots rule name definition)
    (here : definition.nodes[row]? = some placed) {producer other : Nat}
    (feeds : graph.Feeds producer placed.node) (known : definition.rows[producer]? = some other) :
    other < row := by
  -- The producer is reached as well, and its only row is an earlier one.
  obtain ⟨feeder, there, named⟩ := Definition.rows_sound known
  have reaches : graph.Reaches roots producer := named ▸ arranged.reaches there
  obtain ⟨earlier, before, found⟩ := arranged.exists_row_lt here feeds reaches
  rw [known, Option.some.injEq] at found
  omega

/-- In a linked graph, every row of an arranged definition fits the tables. -/
theorem not_misplaced (arranged : Arranged graph roots rule name definition) (linked : graph.Linked)
    (here : definition.nodes[row]? = some placed) (fault : Fault) :
    ¬ definition.Misplacement row placed fault := by
  have same := arranged.graph_eq
  intro misplaced
  -- Each of the four is excluded by what arranging guarantees for that table.
  cases misplaced with
  | outside input absent =>
    rw [same] at input
    have feeds := Graph.feeds_iff.mpr ⟨_, List.mem_of_getElem? input⟩
    obtain ⟨other, _, found⟩ :=
      arranged.exists_row_lt here feeds
        ((arranged.reaches here).of_feeds feeds (linked.lt_size feeds))
    simp [absent] at found
  | order input known late =>
    rw [same] at input
    have feeds := Graph.feeds_iff.mpr ⟨_, List.mem_of_getElem? input⟩
    exact Nat.not_le.mpr (arranged.row_lt here feeds known) late
  | constant input absent =>
    rw [same] at input
    obtain ⟨slot, found⟩ := arranged.exists_slot here (List.mem_of_getElem? input)
    simp [absent] at found
  | parameters control exceeds =>
    rw [same] at control exceeds
    exact exceeds (arranged.parameters here control)

/-- Whatever is wrong with a row of an arranged definition is told as a bad rate or a dangling
reference. -/
theorem flaw_cause (arranged : Arranged graph roots rule name definition)
    (here : definition.nodes[row]? = some placed) {fault : Fault}
    (flaw : definition.Flaw row placed fault) :
    fault.cause = .badRate ∨ fault.cause = .danglingReference := by
  rcases flaw with defect | misplaced
  · cases defect <;> simp [Definition.checkFault, Fault.structural]
  · cases misplaced with
    | order input known late =>
      -- Sequencing has put every producer before the nodes that it feeds.
      rw [arranged.graph_eq] at input
      have feeds := Graph.feeds_iff.mpr ⟨_, List.mem_of_getElem? input⟩
      exact absurd late (Nat.not_le.mpr (arranged.row_lt here feeds known))
    | _ => exact .inr rfl

/-- The special index of a row is the one of the only place where its node was collected. -/
theorem special_eq (arranged : Arranged graph roots rule name definition)
    (listed : placed ∈ definition.nodes) {place : Nat}
    (collected : (reached graph roots)[place]? = some placed.node) :
    placed.special = placedSpecial graph (reached graph roots) place placed.node := by
  -- A node is collected at one place only.
  obtain ⟨other, there, special⟩ := arranged.special placed listed
  have bound := (List.getElem?_eq_some_iff.mp there).1
  have same : other = place :=
    (List.getElem?_inj bound (reached_nodup graph roots)).mp (there.trans collected.symm)
  rw [special, same]

/-- A row covers the segment of its node. -/
theorem covers_iff (arranged : Arranged graph roots rule name definition)
    (listed : placed ∈ definition.nodes) {place : Nat}
    (collected : (reached graph roots)[place]? = some placed.node) (slot : Int) :
    definition.Covers placed slot ↔ segmentStart graph (reached graph roots) place ≤ slot ∧
      slot <
        (segmentStart graph (reached graph roots) place +
          (graph.owned placed.node).length : Nat) := by
  have special := arranged.special_eq listed collected
  unfold Definition.Covers
  rw [arranged.graph_eq, special, placedSpecial, Graph.owned]
  -- A node of another operator owns nothing, so that its segment is empty.
  cases control : isControlOp (graph.node placed.node).op with
  | true => simp
  | false =>
    simp only [Bool.false_eq_true, false_and, if_false, List.length_nil, Nat.add_zero, false_iff]
    omega

/-- A row of an arranged definition was collected at some place. -/
theorem exists_place (arranged : Arranged graph roots rule name definition)
    (listed : placed ∈ definition.nodes) :
    ∃ place : Nat, (reached graph roots)[place]? = some placed.node := by
  -- Where it was collected is told along with its special index.
  obtain ⟨place, collected, _⟩ := arranged.special placed listed
  exact ⟨place, collected⟩

/-- No two rows cover the same place of the control table. -/
theorem covers_apart (arranged : Arranged graph roots rule name definition) :
    definition.nodes.Pairwise fun a b => ∀ slot,
      ¬ (definition.Covers a slot ∧ definition.Covers b slot) := by
  -- Different rows hold different nodes, which were collected at different places.
  have different := List.pairwise_map.mp arranged.distinct
  refine different.imp_of_mem fun {a b} first second apart slot both => ?_
  obtain ⟨i, here⟩ := arranged.exists_place first
  obtain ⟨j, there⟩ := arranged.exists_place second
  have places : i ≠ j := by
    rintro rfl
    rw [here, Option.some.injEq] at there
    exact apart there
  -- A place covered by both would lie in two segments that are apart.
  have one := (arranged.covers_iff first here slot).mp both.1
  have two := (arranged.covers_iff second there slot).mp both.2
  rcases segments_apart graph places here there with before | after
  · omega
  · omega

/-- The rows cover exactly the places of the control table. -/
theorem covered_iff (arranged : Arranged graph roots rule name definition) (slot : Int) :
    (∃ placed ∈ definition.nodes, definition.Covers placed slot) ↔
      0 ≤ slot ∧ slot < definition.controls.length := by
  constructor
  · -- A covered place is in a segment, which ends inside the table.
    rintro ⟨placed, listed, covers⟩
    obtain ⟨place, collected⟩ := arranged.exists_place listed
    have inside := (arranged.covers_iff listed collected slot).mp covers
    have fits := arranged.segment_le collected
    omega
  · -- A place of the table is in some segment, and the row of its node covers it.
    rintro ⟨positive, inside⟩
    have bound : slot.toNat < ((reached graph roots).flatMap graph.owned).length := by
      rw [← arranged.controls_eq]
      omega
    obtain ⟨place, n, collected, low, high⟩ := exists_segment bound
    obtain ⟨placed, listed, rfl⟩ :=
      List.mem_map.mp (arranged.perm.mem_iff.mpr (List.mem_of_getElem? collected))
    exact ⟨placed, listed, (arranged.covers_iff listed collected slot).mpr (by omega)⟩

/-- The control table holds the parameters of a control node from its special index on. -/
theorem getElem?_controls (arranged : Arranged graph roots rule name definition)
    (listed : placed ∈ definition.nodes) (control : isControlOp (graph.node placed.node).op = true)
    {k : Nat} (inside : k < (graph.node placed.node).outputs.size) :
    definition.controls[(placed.special + k).toNat]? = (graph.node placed.node).parameters[k]? := by
  -- The special index of a control node is the start of its segment.
  obtain ⟨place, collected⟩ := arranged.exists_place listed
  have owned : graph.owned placed.node = (graph.node placed.node).parameters := by
    rw [Graph.owned, if_pos control]
  rw [arranged.special_eq listed collected, placedSpecial, if_pos control, ← Int.natCast_add,
    Int.toNat_natCast, arranged.controls_eq,
    getElem?_segment collected (by simpa [owned] using inside), owned]

end Arranged

section Outcome

variable {graph : Graph} {roots : List Element} {rule : Dedup} {name : Bytes}
  {definition : Definition}

/-- A compiled definition is an arranged one that passed the check. -/
theorem compile_eq_ok_iff :
    compile graph roots rule name = .ok definition ↔
      arrange graph roots rule name = .ok definition ∧ definition.check = .ok () := by
  unfold compile
  cases arrange graph roots rule name with
  | error fault => simp [Bind.bind, Except.bind]
  | ok arranged =>
    cases checked : arranged.check with
    | error fault =>
      -- The arranged definition is refused, and no other one was arranged.
      simp only [Bind.bind, Except.bind, checked, Except.ok.injEq, reduceCtorEq, false_iff]
      rintro ⟨rfl, passed⟩
      simp [checked] at passed
    | ok =>
      simp only [Bind.bind, Except.bind, checked, Pure.pure, Except.pure, Except.ok.injEq]
      exact ⟨fun same => ⟨same, same ▸ checked⟩, fun both => both.1⟩

/-- Compilation fails when arranging does, or when the check of the arranged definition does. -/
theorem compile_eq_error_iff {fault : Fault} :
    compile graph roots rule name = .error fault ↔ arrange graph roots rule name = .error fault ∨
      ∃ definition, arrange graph roots rule name = .ok definition ∧
        definition.check = .error fault := by
  -- The two steps come one after the other.
  unfold compile
  cases arrange graph roots rule name with
  | error fault => simp [Bind.bind, Except.bind]
  | ok arranged =>
    cases checked : arranged.check with
    | error fault => simp [Bind.bind, Except.bind, checked]
    | ok => simp [Bind.bind, Except.bind, checked, Pure.pure, Except.pure]

/-- A fault of compilation after arranging tells a flaw of some row. -/
theorem compile_flaw {fault : Fault} (arranged : arrange graph roots rule name = .ok definition)
    (failed : compile graph roots rule name = .error fault) :
    ∃ row placed, definition.nodes[row]? = some placed ∧ definition.Flaw row placed fault := by
  -- The definition was arranged, so that the check failed.
  rcases compile_eq_error_iff.mp failed with unarranged | ⟨other, same, refused⟩
  · rw [arranged] at unarranged
    cases unarranged
  · rw [arranged, Except.ok.injEq] at same
    exact Definition.check_eq_error (same ▸ refused)

/-- Compilation fails for a cycle exactly when arranging fails. -/
theorem compile_cycle_iff {fault : Fault} :
    compile graph roots rule name = .error fault ∧ fault.cause = .cycle ↔
      arrange graph roots rule name = .error fault := by
  rw [compile_eq_error_iff]
  constructor
  · rintro ⟨failed | ⟨definition, arranged, refused⟩, cause⟩
    · exact failed
    · -- The check of an arranged definition never tells of a cycle.
      obtain ⟨row, placed, here, flaw⟩ := Definition.check_eq_error refused
      rcases (arrange_arranged arranged).flaw_cause here flaw with other | other
      · simp [cause] at other
      · simp [cause] at other
  · intro failed
    exact ⟨.inl failed, (arrange_fault failed).1⟩

end Outcome

/-- A graph in which a control node with too few descriptors feeds two nodes, one of them through
the other. -/
def diamond : Graph where
  nodes := #[
    ⟨utf8 "Control", .control, [], #[.control, .control], 7,
      some [⟨utf8 "freq", .audio, ⟨0x43dc0000⟩, .zero⟩]⟩,
    ⟨utf8 "SinOsc", .audio, [.output 0 0, .constant 0], #[.audio], 0, none⟩,
    ⟨utf8 "BinaryOpUGen", .audio, [.output 1 0, .output 0 1], #[.audio], 2, none⟩,
    ⟨utf8 "Out", .audio, [.constant 1, .output 2 0, .output 1 0], #[], 0, none⟩]
  constants := #[.zero, .zero]

/-- Two roots that share what they reach. -/
def diamondRoots : List Element := [.node 3, .channel 0 1]

/-- The definition of the graph with its nodes in their own order. -/
def diamondDefinition : Definition :=
  defined diamond diamondRoots .value (utf8 "diamond") [0, 1, 2, 3]

/-- The nodes are collected in their own order. -/
theorem diamond_reached : reached diamond diamondRoots = [0, 1, 2, 3] := by cbv

/-- The graph compiles to its definition. -/
theorem diamond_compiled :
    compile diamond diamondRoots .value (utf8 "diamond") = .ok diamondDefinition := by
  have sequenced : sequence diamond [0, 1, 2, 3] = .ok [0, 1, 2, 3] := by cbv
  have arranged : arrange diamond diamondRoots .value (utf8 "diamond") = .ok diamondDefinition := by
    rw [arrange_eq, diamond_reached, sequenced]
    rfl
  -- What is left is that the four nodes are sound.
  refine compile_eq_ok_iff.mpr ⟨arranged, (arrange_arranged arranged).check_iff.mpr ?_⟩
  intro n reaches
  rw [← mem_reached_iff, diamond_reached] at reaches
  revert n
  decide

/-- The outcome of compilation. It fails for a cycle exactly when the roots reach one, and the fault
names a node on a cycle by its place in the collection. Otherwise it succeeds exactly when every
node that the roots reach is sound, and a fault is about a rate or an output that a node does not
have. In a linked graph the tables of a definition always fit its nodes. -/
theorem compile_outcome (graph : Graph) (roots : List Element) (rule : Dedup) (name : Bytes) :
    ((∃ fault, compile graph roots rule name = .error fault ∧ fault.cause = .cycle) ↔
        ∃ n, graph.Reaches roots n ∧ graph.OnCycle n) ∧
      (∀ fault, compile graph roots rule name = .error fault → fault.cause = .cycle →
        ∃ (place : Nat) (n : Nat), (collect graph roots rule).nodes[place]? = some n ∧
          fault.node = place ∧ fault.nodeOp = (graph.node n).op ∧ graph.OnCycle n) ∧
      ((¬ ∃ n, graph.Reaches roots n ∧ graph.OnCycle n) →
        ((∃ definition, compile graph roots rule name = .ok definition) ↔
          ∀ n, graph.Reaches roots n → graph.NodeSound n) ∧
        ∀ fault, compile graph roots rule name = .error fault →
          fault.cause = .badRate ∨ fault.cause = .danglingReference) ∧
      (graph.Linked → ∀ definition, arrange graph roots rule name = .ok definition →
        (∀ row placed, definition.nodes[row]? = some placed →
          ∀ fault, ¬ definition.Misplacement row placed fault) ∧
        ∀ fault, compile graph roots rule name = .error fault →
          ∃ row placed, definition.nodes[row]? = some placed ∧
            definition.Defect row placed fault) := by
  refine ⟨?_, ?_, ?_, ?_⟩
  · -- Only arranging can find a cycle, and it finds one wherever there is one.
    rw [← arrange_fails_iff graph roots rule name]
    exact exists_congr fun fault => compile_cycle_iff
  · -- So the fault is that of arranging, which names a node on a cycle.
    intro fault failed cause
    exact (arrange_fault (compile_cycle_iff.mp ⟨failed, cause⟩)).2
  · -- Without a cycle arranging succeeds, and the check alone decides.
    intro acyclic
    have unfailing : ¬ ∃ fault, arrange graph roots rule name = .error fault :=
      mt (arrange_fails_iff graph roots rule name).mp acyclic
    cases arranged : arrange graph roots rule name with
    | error fault => exact absurd ⟨fault, arranged⟩ unfailing
    | ok definition =>
      have facts := arrange_arranged arranged
      refine ⟨?_, ?_⟩
      · rw [← facts.check_iff]
        constructor
        · rintro ⟨compiled, success⟩
          obtain ⟨same, passed⟩ := compile_eq_ok_iff.mp success
          rw [arranged, Except.ok.injEq] at same
          exact same ▸ passed
        · exact fun passed => ⟨definition, compile_eq_ok_iff.mpr ⟨arranged, passed⟩⟩
      · intro fault failed
        obtain ⟨row, placed, here, flaw⟩ := compile_flaw arranged failed
        exact facts.flaw_cause here flaw
  · -- In a linked graph only the defects of the nodes themselves are left to find.
    intro linked definition arranged
    have facts := arrange_arranged arranged
    refine ⟨fun row placed here => facts.not_misplaced linked here, fun fault failed => ?_⟩
    obtain ⟨row, placed, here, defect | misplaced⟩ := compile_flaw arranged failed
    · exact ⟨row, placed, here, defect⟩
    · exact absurd misplaced (facts.not_misplaced linked here fault)

/-- A graph of two nodes that feed each other. -/
def feedback : Graph where
  nodes := #[⟨utf8 "SinOsc", .audio, [.output 1 0], #[.audio], 0, none⟩,
    ⟨utf8 "LPF", .audio, [.output 0 0], #[.audio], 0, none⟩]
  constants := #[]

/-- The feedback graph fails for its cycle, and the diamond compiles since there is none in it. -/
theorem feedback_outcome :
    (∃ fault, compile feedback [.node 0] .value (utf8 "feedback") = .error fault ∧
      fault.cause = .cycle) ∧
      diamond.Linked ∧ (¬ ∃ n, diamond.Reaches diamondRoots n ∧ diamond.OnCycle n) ∧
      ((∃ definition, compile diamond diamondRoots .value (utf8 "diamond") = .ok definition) ↔
        ∀ n, diamond.Reaches diamondRoots n → diamond.NodeSound n) := by
  -- Each of the two nodes feeds the other.
  have there : feedback.Feeds 0 1 := Graph.feeds_iff.mpr ⟨0, by decide⟩
  have back : feedback.Feeds 1 0 := Graph.feeds_iff.mpr ⟨0, by decide⟩
  have cycle : feedback.OnCycle 0 := .head there (.single back)
  have reaches : feedback.Reaches [.node 0] 0 := ⟨by decide, .node 0, by simp, 0, rfl, .refl⟩
  have acyclic : ¬ ∃ n, diamond.Reaches diamondRoots n ∧ diamond.OnCycle n := by
    have arranged := (compile_eq_ok_iff.mp diamond_compiled).1
    rw [← arrange_fails_iff diamond diamondRoots .value (utf8 "diamond"), arranged]
    simp
  exact ⟨(compile_outcome feedback [.node 0] .value (utf8 "feedback")).1.mpr
    ⟨0, reaches, cycle⟩, by decide, acyclic,
    ((compile_outcome diamond diamondRoots .value (utf8 "diamond")).2.2.1 acyclic).1⟩

section Tables

variable {graph : Graph} {roots : List Element} {rule : Dedup} {name : Bytes}
  {definition : Definition}

/-- A compiled definition is an arranged one. -/
theorem compile_arranged (compiled : compile graph roots rule name = .ok definition) :
    Arranged graph roots rule name definition :=
  -- Compiling arranges first.
  arrange_arranged (compile_eq_ok_iff.mp compiled).1

/-- Every row of a compiled definition is sound. -/
theorem compile_rowSound (compiled : compile graph roots rule name = .ok definition) {row : Nat}
    {placed : Placed} (here : definition.nodes[row]? = some placed) :
    definition.RowSound row placed :=
  -- Compiling checks last, and the check goes through all rows.
  (Definition.check_eq_ok_iff definition).mp (compile_eq_ok_iff.mp compiled).2 row placed here

/-- The node table of a compiled definition holds exactly the nodes that the roots reach, each once.
Every input is a constant whose key is in the constant table, or an existing output of a node in an
earlier row. -/
theorem compile_nodeTable (compiled : compile graph roots rule name = .ok definition) :
    definition.graph = graph ∧
      (∀ n, n ∈ definition.nodes.map Placed.node ↔ graph.Reaches roots n) ∧
      (definition.nodes.map Placed.node).Nodup ∧
      ∀ (row : Nat) (placed : Placed), definition.nodes[row]? = some placed →
        ∀ source ∈ (graph.node placed.node).inputs, match source with
          | .constant constant =>
            rule.key graph constant ∈ definition.constants.map (rule.key graph)
          | .output producer slot =>
            (∃ other < row, (definition.nodes.map Placed.node)[other]? = some producer) ∧
              0 ≤ slot ∧ slot < (graph.node producer).outputs.size := by
  have arranged := compile_arranged compiled
  have same := arranged.graph_eq
  refine ⟨same, fun n => arranged.mem_nodes_iff, arranged.distinct, ?_⟩
  intro row placed here source member
  -- The check has resolved every input, and what it looked up is in the tables.
  have resolved := (compile_rowSound compiled here).inputs source (same ▸ member)
  cases source with
  | constant constant =>
    obtain ⟨slot, found⟩ := resolved
    obtain ⟨kept, listed, key⟩ := Definition.slots_sound found
    simp only [Definition.keyOf, same, arranged.dedup_eq] at key
    exact List.mem_map.mpr ⟨kept, List.mem_of_getElem? listed, key⟩
  | output producer slot =>
    obtain ⟨⟨other, before, found⟩, bounds⟩ := resolved
    obtain ⟨feeder, there, named⟩ := Definition.rows_sound found
    refine ⟨⟨other, before, ?_⟩, same ▸ bounds⟩
    rw [List.getElem?_map, there, Option.map_some, named]

/-- The node table of the diamond holds all four nodes, which are all that its roots reach. -/
theorem diamond_nodeTable :
    compile diamond diamondRoots .value (utf8 "diamond") = .ok diamondDefinition ∧
      ∀ n, n ∈ [0, 1, 2, 3] ↔ diamond.Reaches diamondRoots n :=
  -- The diamond compiles.
  ⟨diamond_compiled, (compile_nodeTable diamond_compiled).2.1⟩

/-- In a compiled definition, the control nodes share out the control table: no place is covered
twice, and exactly the places of the table are covered. Each place holds the parameter of its node,
which is the node's own descriptor where there is one for each output and is completed otherwise.
Every other node keeps its special index. -/
theorem compile_controlTable (compiled : compile graph roots rule name = .ok definition) :
    definition.graph = graph ∧
      (definition.nodes.Pairwise fun a b => ∀ slot,
        ¬ (definition.Covers a slot ∧ definition.Covers b slot)) ∧
      (∀ slot, (∃ placed ∈ definition.nodes, definition.Covers placed slot) ↔
        0 ≤ slot ∧ slot < definition.controls.length) ∧
      (∀ placed ∈ definition.nodes, isControlOp (graph.node placed.node).op = true →
        ∀ (k : Nat) (rate : Rate), (graph.node placed.node).outputs[k]? = some rate →
          definition.controls[(placed.special + k).toNat]? =
            if (graph.node placed.node).descriptors.length = (graph.node placed.node).outputs.size
            then (graph.node placed.node).descriptors[k]?
            else some { (graph.node placed.node).descriptors[k]?.getD .blank with rate := rate }) ∧
      ∀ placed ∈ definition.nodes, isControlOp (graph.node placed.node).op = false →
        placed.special = (graph.node placed.node).special := by
  have arranged := compile_arranged compiled
  refine ⟨arranged.graph_eq, arranged.covers_apart, arranged.covered_iff, ?_, ?_⟩
  · -- The segment of a control node holds its parameters, with or without a descriptor for each.
    intro placed listed control k rate output
    rw [arranged.getElem?_controls listed control (Array.getElem?_eq_some_iff.mp output).1]
    split
    · rename_i paired
      rw [Node.parameters_eq_descriptors paired]
    · rename_i unpaired
      exact Node.getElem?_parameters unpaired output
  · -- Any other node was placed with its own special index.
    intro placed listed other
    obtain ⟨place, collected⟩ := arranged.exists_place listed
    rw [arranged.special_eq listed collected, placedSpecial, other]
    rfl

/-- The two parameters of the diamond are covered by its only control node. -/
theorem diamond_controlTable :
    compile diamond diamondRoots .value (utf8 "diamond") = .ok diamondDefinition ∧
      ∀ slot, (∃ placed ∈ diamondDefinition.nodes, diamondDefinition.Covers placed slot) ↔
        0 ≤ slot ∧ slot < diamondDefinition.controls.length :=
  -- The diamond compiles.
  ⟨diamond_compiled, (compile_controlTable diamond_compiled).2.2.1⟩

end Tables

end Patchbay
