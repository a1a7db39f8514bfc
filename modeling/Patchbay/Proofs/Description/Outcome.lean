import Patchbay.Proofs.Description.Described
import Patchbay.Proofs.Stream.Limits

/-! What becomes of a built description: it compiles unless its roots reach a cycle, and it is
written unless a table of it exceeds the format. -/

open Patchbay.Stream (maxName maxCount maxRow)

namespace Patchbay

/-- A definition whose tables, inputs and references the format can count. -/
structure Definition.WithinLimits (definition : Definition) : Prop where
  constants : definition.constants.length ≤ maxCount
  controls : definition.controls.length ≤ maxCount
  nodes : definition.nodes.length ≤ maxCount
  inputs : ∀ placed ∈ definition.nodes, (definition.graph.node placed.node).inputs.length ≤ maxCount
  producers : ∀ placed ∈ definition.nodes,
    ∀ producer ∈ (definition.graph.node placed.node).producers, definition.rows.getD producer 0 ≤
      maxRow

namespace Description

variable {description : Description} {built : Built}

/-- A unit node has no more outputs and no larger special index than the format holds. -/
theorem unit_counts {entry : NodeEntry} (valid : entry.Valid) :
    entry.node.outputs.size ≤ maxCount ∧ 0 ≤ entry.node.special ∧
    entry.node.special ≤ maxCount := by
  have special := valid.special
  simp only [NodeEntry.node, Node.uniform, Array.size_replicate, NodeEntry.outputCount, maxCount]
  refine ⟨?_, special⟩
  -- Without a number of its own the node has one output.
  cases given : entry.outputs with
  | none => decide
  | some count =>
    have bounds := valid.outputs count given
    simp only [ShortCount] at bounds
    simp only [Option.getD_some]
    omega

/-- Compiling a built description fails for a cycle only. -/
theorem compile_failsFor (describes : description.Describes built) (valid : description.Valid)
    (rule : Dedup)
    (name : Bytes) : FailsFor .cycle (compile built.graph built.roots rule name) := by
  intro fault failed
  rcases compile_eq_error_iff.mp failed with unarranged | ⟨definition, arranged, refused⟩
  · exact (arrange_fault unarranged).1
  · -- All nodes are sound, so the check passes whatever was arranged.
    rw [(arrange_arranged arranged).check_iff.mpr fun n reaches =>
      describes.nodeSound valid reaches.1] at refused
    cases refused

variable {rule : Dedup} {name : Bytes} {definition : Definition}

/-- A compiled description has short names only. -/
theorem nameable (describes : description.Describes built) (valid : description.Valid)
    (short : name.length ≤ maxName)
    (compiled : compile built.graph built.roots rule name = .ok definition) :
    definition.Nameable := by
  have arranged := compile_arranged compiled
  refine ⟨arranged.name_eq ▸ short, (compile_eq_ok_iff.mp compiled).2, fun descriptor member => ?_,
    fun placed listed => ?_⟩
  · -- A parameter of the definition is one of a node that the roots reach.
    rw [arranged.controls_eq, List.mem_flatMap] at member
    obtain ⟨n, collected, owned⟩ := member
    rw [Graph.owned] at owned
    split at owned
    · exact (describes.short valid (mem_reached_iff.mp collected).1).2 descriptor owned
    · cases owned
  · obtain ⟨row, here⟩ := List.mem_iff_getElem?.mp listed
    rw [arranged.graph_eq]
    exact (describes.short valid (arranged.reaches here).1).1

/-- The format holds the outputs and the special index of every row once it holds the control
table. -/
theorem row_counts (describes : description.Describes built) (valid : description.Valid)
    (compiled : compile built.graph built.roots rule name = .ok definition)
    (few : definition.controls.length ≤ maxCount) {placed : Placed}
    (listed : placed ∈ definition.nodes) :
    (built.graph.node placed.node).outputs.size ≤ maxCount ∧ 0 ≤ placed.special ∧
    placed.special ≤ maxCount := by
  have arranged := compile_arranged compiled
  obtain ⟨place, collected, special⟩ := arranged.special placed listed
  rw [special, placedSpecial]
  cases control : isControlOp (built.graph.node placed.node).op with
  | true =>
    -- The parameters of a control node are a segment of the control table.
    have fits := arranged.segment_le collected
    rw [Graph.owned, if_pos control, Node.length_parameters] at fits
    simp only [if_true]
    omega
  | false =>
    -- What is no control node was declared as a unit node, whose counts are checked.
    obtain ⟨part, declared⟩ :=
      describes.exists_part (mem_reached_iff.mp (List.mem_of_getElem? collected)).1
    obtain ⟨elements, -, same⟩ := describes.node declared
    have known := List.mem_of_getElem? declared
    rw [same] at control
    simp only [Bool.false_eq_true, if_false, same]
    cases part with
    | group entry =>
      have group : entry ∈ description.controls := by simpa [parts] using known
      simp [Part.node, GroupEntry.node_eq, Node.holding,
        GroupEntry.isControlOp_operator (valid.groups entry group)] at control
    | unit entry => exact unit_counts (valid.nodes entry (by simpa [parts] using known))

/-- A compiled description is writable exactly when the format can count all it holds. -/
theorem writable_iff (describes : description.Describes built) (valid : description.Valid)
    (short : name.length ≤ maxName)
    (compiled : compile built.graph built.roots rule name = .ok definition) :
    definition.Writable false ↔ definition.WithinLimits := by
  have nameable := nameable describes valid short compiled
  have same := (compile_arranged compiled).graph_eq
  constructor
  · intro writable
    refine ⟨writable.constantCount, writable.controlCount, writable.nodeCount,
      fun placed listed => (writable.rows placed listed).inputCount,
        fun placed listed producer feeds => ?_⟩
    obtain ⟨slot, member⟩ := Graph.feeds_iff.mp feeds
    exact ((writable.rows placed listed).inputs _ member).1
  · intro limits
    refine ⟨nameable.name, limits.constants, limits.controls, limits.nodes,
      nameable.checked, by simp, nameable.controlNames, fun placed listed => ?_⟩
    have counts : ∀ placed ∈ definition.nodes, (definition.graph.node placed.node).outputs.size ≤
      maxCount ∧
        0 ≤ placed.special ∧ placed.special ≤ maxCount := by
      rw [same]
      exact fun placed known => row_counts describes valid compiled limits.controls known
    obtain ⟨outputs, special⟩ := counts placed listed
    refine ⟨nameable.ops placed listed, limits.inputs placed listed, outputs, special, ?_⟩
    -- A reference names an output that its producer has, and a producer has few outputs.
    intro source member
    cases source with
    | constant index => trivial
    | output producer slot =>
      refine ⟨limits.producers placed listed producer (Graph.feeds_iff.mpr ⟨slot, member⟩), ?_⟩
      obtain ⟨row, here⟩ := List.mem_iff_getElem?.mp listed
      obtain ⟨⟨other, -, found⟩, -, inside⟩ := (compile_rowSound compiled here).inputs _ member
      obtain ⟨feeder, there, rfl⟩ := Definition.rows_sound found
      have held := (counts feeder (List.mem_of_getElem? there)).1
      omega

end Description

/-- The format can count all that the oscillator and the envelope hold. -/
theorem voice_writable : voiceDefinition.Writable false := by
  obtain ⟨sound, describes⟩ := Description.of_build voice_built
  have controls : voiceDefinition.controls.length = 3 := by
    change ((reached voiceBuilt.graph voiceBuilt.roots).flatMap voiceBuilt.graph.owned).length = 3
    rw [voice_reached]
    rfl
  have nodes : voiceDefinition.nodes = [⟨0, 0⟩, ⟨3, 0⟩, ⟨1, 2⟩, ⟨4, 0⟩, ⟨2, 0⟩] := by
    simp only [voiceDefinition, defined, voice_reached]
    rfl
  have constants : voiceDefinition.constants.length ≤ 3 := by
    change
      (usedConstants voiceBuilt.graph .value (reached voiceBuilt.graph voiceBuilt.roots)).length ≤ 3
    rw [voice_reached]
    exact length_firstByKey_le _ _
  rw [Description.writable_iff describes sound.valid (by decide) voice_compiled]
  refine ⟨Nat.le_trans constants (by decide), by rw [controls]; decide, by rw [nodes]; decide, ?_,
    ?_⟩
  · rw [nodes]
    decide
  · -- No row has a number beyond those of the five rows.
    intro placed listed producer feeds
    have few : voiceDefinition.rows.getD producer 0 ≤ 5 := by
      rw [Std.HashMap.getD_eq_getD_getElem?]
      cases found : voiceDefinition.rows[producer]? with
      | none => decide
      | some row =>
        obtain ⟨feeder, there, -⟩ := Definition.rows_sound found
        have inside := (List.getElem?_eq_some_iff.mp there).1
        rw [nodes] at inside
        exact Nat.le_of_lt inside
    exact Nat.le_trans few (by decide)

/-- A built description is compiled under its own short name, or under a temporary one. -/
theorem compiledName_short {description : Description} {built : Built} (valid : description.Valid)
    (same : built.name = description.name) {token : Bytes} (width : token.length = 36) :
    (if built.name.isEmpty then temporaryName token else built.name).length ≤ maxName := by
  split
  · -- Six bytes come in front of the thirty-six of the token.
    have head : (utf8 "temp__").length = 6 := by decide
    change (utf8 "temp__" ++ token).length ≤ 255
    rw [List.length_append, head, width]
    decide
  · rw [same]
    exact valid.name

/-- What becomes of a description that builds. It fails to compile exactly when its roots reach a
cycle, and it is told so. Otherwise it is written exactly when no table, list of inputs or reference
exceeds the format, and the fault is that something is too many. -/
theorem built_outcome (description : Description) (built : Built)
    (success : description.build = .ok built)
    (rule : Dedup) (token name : Bytes) (width : token.length = 36)
    (named : name = if built.name.isEmpty then temporaryName token else built.name) :
    ((∃ fault, compile built.graph built.roots rule name = .error fault) ↔
        ∃ n, built.graph.Reaches built.roots n ∧ built.graph.OnCycle n) ∧
      (∀ fault, compile built.graph built.roots rule name = .error fault → fault.cause = .cycle) ∧
      ∀ definition, compile built.graph built.roots rule name = .ok definition →
        ((∃ data, Stream.encode false [definition] = .ok data) ↔ definition.WithinLimits) ∧
          ∀ fault, Stream.encode false [definition] = .error fault → fault.cause = .tooMany := by
  obtain ⟨sound, describes⟩ := Description.of_build success
  have failsFor := Description.compile_failsFor describes sound.valid rule name
  have short : name.length ≤ maxName := named ▸ compiledName_short sound.valid describes.name width
  refine ⟨?_, failsFor, fun definition compiled => ⟨?_, ?_⟩⟩
  · -- A fault is about a cycle, so it comes from arranging, and that fails for a reached cycle.
    rw [← arrange_fails_iff built.graph built.roots rule name]
    refine exists_congr fun fault => ?_
    rw [← compile_cycle_iff]
    exact (and_iff_left_of_imp (failsFor fault)).symm
  · rw [← Description.writable_iff describes sound.valid short compiled]
    simp only [Stream.encode_eq_ok_iff, List.mem_singleton, forall_eq, List.length_singleton]
    exact ⟨fun ⟨_, _, writable, _⟩ => writable, fun writable => ⟨_, by decide, writable, rfl⟩⟩
  · exact Stream.encode_failsFor (Description.nameable describes sound.valid short compiled)

/-- A description without a name, in which two nodes feed each other. -/
def feedbackDescription : Description where
  name := []
  controls := [⟨[], [], some [⟨utf8 "freq", ⟨0x43dc0000⟩, .zero⟩]⟩]
  nodes := [
    ⟨utf8 "osc", utf8 "SinOsc", utf8 "audio", none, 0, [utf8 "@freq", utf8 "delay"]⟩,
    ⟨utf8 "delay", utf8 "DelayN", utf8 "audio", none, 0, [utf8 "osc:0", utf8 "0.5"]⟩]
  roots := some [utf8 "delay"]

/-- The graph of the two nodes and their parameter. -/
def feedbackBuilt : Built where
  name := []
  graph := ⟨#[⟨utf8 "Control", .control, [], #[.control], 0,
        some [⟨utf8 "freq", .control, ⟨0x43dc0000⟩, .zero⟩]⟩,
      ⟨utf8 "SinOsc", .audio, [.output 0 0, .output 2 0], #[.audio], 0, none⟩,
      ⟨utf8 "DelayN", .audio, [.output 1 0, .constant 0], #[.audio], 0, none⟩], #[⟨0x3f000000⟩]⟩
  nodes := [(utf8 "osc", 1), (utf8 "delay", 2)]
  channels := [(utf8 "freq", .channel 0 0)]
  roots := [.node 2]

/-- The description builds, does not compile under its temporary name, and is told of the cycle. -/
theorem feedback_built_outcome :
    feedbackDescription.build = .ok feedbackBuilt ∧
      ∃ fault, compile feedbackBuilt.graph feedbackBuilt.roots .value
        (temporaryName (utf8 "c0ffee00-0000-4000-8000-00000000beef")) = .error fault ∧
        fault.cause = .cycle := by
  have success : feedbackDescription.build = .ok feedbackBuilt := by decide +kernel
  obtain ⟨fails, cause, -⟩ := built_outcome feedbackDescription feedbackBuilt success .value
    (utf8 "c0ffee00-0000-4000-8000-00000000beef") _ (by decide) rfl
  -- The root is fed by the oscillator, which it feeds itself.
  have forth : feedbackBuilt.graph.Feeds 1 2 := by
    change 1 ∈ (feedbackBuilt.graph.node 2).producers
    decide
  have back : feedbackBuilt.graph.Feeds 2 1 := by
    change 2 ∈ (feedbackBuilt.graph.node 1).producers
    decide
  obtain ⟨fault, failed⟩ :=
    fails.mpr ⟨2, ⟨by decide, .node 2, by decide, 2, rfl, .refl⟩, .head back (.single forth)⟩
  exact ⟨success, fault, failed, cause fault failed⟩

end Patchbay
