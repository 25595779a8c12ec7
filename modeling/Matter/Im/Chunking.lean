import Matter.Lib.Pack

/-!
# Chunking of Interaction Model messages (`pkg/im/chunking.go`)

A sender cuts an InvokeResponse, WriteRequest or ReportData message whose item list is too
long into chunks (`Fragmenter.Fragment*`), and the receiver gathers them again (`Assembler.Add*`).
Every fragmenter runs the greedy loop of `Pack` over the items with an estimated size per item
and a base overhead (20 bytes, or 30 for reports, whose loop runs over the attribute reports and
then the event reports into the same chunks). All chunks but the last have
`MoreChunkedMessages` set; the assembler takes the header fields from the first chunk and
appends the items of every chunk until one without `MoreChunkedMessages`.

The messages keep only the fields chunking reads or copies: the items are the IBs of
`pkg/im/message` with only the fields the size estimates read, and a status IB is only there or
not.

Results:
* `fragmentInvokeResponse_assembles`, `fragmentWriteRequest_assembles`: the chunks of an
  InvokeResponse or a WriteRequest with items, fed in order into a new assembler, are reported
  incomplete but the last, which gives the message back; every chunk holds an item and every
  chunk of two items or more fits.
* `fragmentReportData_assembles`: the same for a ReportData, except that the message comes back
  with `SuppressResponse` set only when it was set and there was one chunk: the fragmenter
  clears it on every chunk but the last, and the assembler keeps the first chunk's.
-/

namespace Matter.Im

/-! ## The messages (`pkg/im/message`) -/

/-- `CommandDataIB`: its path and reference are left out. -/
structure CommandDataIB where
  fields : List UInt8
  deriving DecidableEq, Repr

/-- `CommandStatusIB`: chunking only tests whether there is one. -/
structure CommandStatusIB where
  deriving DecidableEq, Repr

/-- `InvokeResponseIB`. -/
structure InvokeResponseIB where
  command : Option CommandDataIB
  status : Option CommandStatusIB
  deriving DecidableEq, Repr

/-- `AttributeDataIB`: its data version and path are left out. -/
structure AttributeDataIB where
  data : List UInt8
  deriving DecidableEq, Repr

/-- `AttributeStatusIB`: chunking only tests whether there is one. -/
structure AttributeStatusIB where
  deriving DecidableEq, Repr

/-- `AttributeReportIB`. -/
structure AttributeReportIB where
  attributeStatus : Option AttributeStatusIB
  attributeData : Option AttributeDataIB
  deriving DecidableEq, Repr

/-- `EventDataIB`: only its data is read. -/
structure EventDataIB where
  data : List UInt8
  deriving DecidableEq, Repr

/-- `EventStatusIB`: chunking only tests whether there is one. -/
structure EventStatusIB where
  deriving DecidableEq, Repr

/-- `EventReportIB`. -/
structure EventReportIB where
  eventStatus : Option EventStatusIB
  eventData : Option EventDataIB
  deriving DecidableEq, Repr

/-- `SubscriptionID`. -/
abbrev SubscriptionID := UInt32

/-- `InvokeResponseMessage`. -/
structure InvokeResponseMessage where
  suppressResponse : Bool
  invokeResponses : List InvokeResponseIB
  moreChunkedMessages : Bool
  deriving DecidableEq, Repr

/-- `WriteRequestMessage`. -/
structure WriteRequestMessage where
  suppressResponse : Bool
  timedRequest : Bool
  writeRequests : List AttributeDataIB
  moreChunkedMessages : Bool
  deriving DecidableEq, Repr

/-- `ReportDataMessage`; the subscription ID pointer is an `Option`. -/
structure ReportDataMessage where
  subscriptionID : Option SubscriptionID
  attributeReports : List AttributeReportIB
  eventReports : List EventReportIB
  moreChunkedMessages : Bool
  suppressResponse : Bool
  deriving DecidableEq, Repr

/-! ## The assembler -/

/-- `ErrChunkingInProgress`, the one error the assembler returns. -/
inductive ChunkingError
  | inProgress
  deriving DecidableEq, Repr

/-- `ChunkType`. -/
inductive ChunkType
  | none
  | writeRequest
  | reportData
  | invokeResponse
  deriving DecidableEq, Repr

/-- `Assembler`, its fields starting at Go's zero values. -/
structure Assembler where
  chunkType : ChunkType := .none
  writeRequests : List AttributeDataIB := []
  attributeReports : List AttributeReportIB := []
  eventReports : List EventReportIB := []
  invokeResponses : List InvokeResponseIB := []
  suppressResponse : Bool := false
  timedRequest : Bool := false
  subscriptionID : Option SubscriptionID := none
  deriving DecidableEq, Repr

/-- `NewAssembler`. -/
def newAssembler : Assembler := {}

namespace Assembler

/-- `AddWriteRequest`: `none` while the message is incomplete. -/
def addWriteRequest (a : Assembler) (msg : WriteRequestMessage) :
    Except ChunkingError (Option WriteRequestMessage) × Assembler :=
  if a.chunkType ≠ .none ∧ a.chunkType ≠ .writeRequest then (.error .inProgress, a)
  else
    let a := if a.chunkType = .none then
      { a with chunkType := .writeRequest, suppressResponse := msg.suppressResponse,
               timedRequest := msg.timedRequest, writeRequests := [] } else a
    let a := { a with writeRequests := a.writeRequests ++ msg.writeRequests }
    if !msg.moreChunkedMessages then
      (.ok (some ⟨a.suppressResponse, a.timedRequest, a.writeRequests, false⟩),
        { a with chunkType := .none, writeRequests := [], suppressResponse := false,
                 timedRequest := false })
    else (.ok none, a)

/-- `AddReportData`. -/
def addReportData (a : Assembler) (msg : ReportDataMessage) :
    Except ChunkingError (Option ReportDataMessage) × Assembler :=
  if a.chunkType ≠ .none ∧ a.chunkType ≠ .reportData then (.error .inProgress, a)
  else
    let a := if a.chunkType = .none then
      { a with chunkType := .reportData, suppressResponse := msg.suppressResponse,
               subscriptionID := msg.subscriptionID, attributeReports := [],
               eventReports := [] } else a
    let a := { a with attributeReports := a.attributeReports ++ msg.attributeReports,
                      eventReports := a.eventReports ++ msg.eventReports }
    if !msg.moreChunkedMessages then
      (.ok (some ⟨a.subscriptionID, a.attributeReports, a.eventReports, false,
          a.suppressResponse⟩),
        { a with chunkType := .none, attributeReports := [], eventReports := [],
                 suppressResponse := false, subscriptionID := none })
    else (.ok none, a)

/-- `AddInvokeResponse`. -/
def addInvokeResponse (a : Assembler) (msg : InvokeResponseMessage) :
    Except ChunkingError (Option InvokeResponseMessage) × Assembler :=
  if a.chunkType ≠ .none ∧ a.chunkType ≠ .invokeResponse then (.error .inProgress, a)
  else
    let a := if a.chunkType = .none then
      { a with chunkType := .invokeResponse, suppressResponse := msg.suppressResponse,
               invokeResponses := [] } else a
    let a := { a with invokeResponses := a.invokeResponses ++ msg.invokeResponses }
    if !msg.moreChunkedMessages then
      (.ok (some ⟨a.suppressResponse, a.invokeResponses, false⟩),
        { a with chunkType := .none, invokeResponses := [], suppressResponse := false })
    else (.ok none, a)

end Assembler

/-- The receiver's side of a chunked exchange: every chunk, in order, into one assembler, with
what each call returned. -/
def feed {μ : Type} (add : Assembler → μ → Except ChunkingError (Option μ) × Assembler) :
    Assembler → List μ → List (Except ChunkingError (Option μ)) × Assembler
  | a, [] => ([], a)
  | a, m :: ms =>
    let r := add a m
    let rest := feed add r.2 ms
    (r.1 :: rest.1, rest.2)

/-! ## The fragmenter -/

/-- `DefaultMTU`. -/
def defaultMTU : Nat := 1280

/-- `MessageHeaderOverhead`. -/
def messageHeaderOverhead : Nat := 100

/-- `DefaultMaxPayload`. -/
def defaultMaxPayload : Nat := defaultMTU - messageHeaderOverhead

/-- `Fragmenter`: `NewFragmenter` makes its maximum payload positive. -/
structure Fragmenter where
  maxPayload : Nat
  maxPayload_pos : 0 < maxPayload

/-- `NewFragmenter`: a payload of zero or less stands for the default. -/
def newFragmenter (maxPayload : Int) : Fragmenter :=
  if h : maxPayload ≤ 0 then ⟨defaultMaxPayload, by decide⟩ else ⟨maxPayload.toNat, by omega⟩

theorem newFragmenter_maxPayload (maxPayload : Int) :
    (newFragmenter maxPayload).maxPayload =
      if maxPayload ≤ 0 then defaultMaxPayload else maxPayload.toNat := by
  unfold newFragmenter
  split <;> simp [*]

/-- `estimateCommandDataIBSize`. -/
def estimateCommandDataIBSize (ib : CommandDataIB) : Nat := 15 + ib.fields.length

/-- `estimateInvokeResponseIBSize`. -/
def estimateInvokeResponseIBSize (ib : InvokeResponseIB) : Nat :=
  10 + (match ib.command with
    | some command => estimateCommandDataIBSize command
    | none => 0) + (if ib.status.isSome then 20 else 0)

/-- `estimateAttributeDataIBSize`. -/
def estimateAttributeDataIBSize (ib : AttributeDataIB) : Nat := 20 + ib.data.length

/-- `estimateAttributeReportIBSize`. -/
def estimateAttributeReportIBSize (ib : AttributeReportIB) : Nat :=
  5 + (match ib.attributeData with
    | some data => estimateAttributeDataIBSize data
    | none => 0) + (if ib.attributeStatus.isSome then 25 else 0)

/-- `estimateEventReportIBSize`. -/
def estimateEventReportIBSize (ib : EventReportIB) : Nat :=
  5 + (match ib.eventData with
    | some data => 30 + data.data.length
    | none => 0) + (if ib.eventStatus.isSome then 25 else 0)

namespace Fragmenter

/-- `FragmentInvokeResponse`: the greedy loop with a base overhead of 20. -/
def fragmentInvokeResponse (f : Fragmenter) (msg : InvokeResponseMessage) :
    List InvokeResponseMessage :=
  if msg.invokeResponses = [] then [msg]
  else
    let s := Pack.run [] (fun c x => c ++ [x]) estimateInvokeResponseIBSize 20 f.maxPayload
      ⟨[], [], 0⟩ msg.invokeResponses
    s.chunks.map (fun c => ⟨msg.suppressResponse, c, true⟩) ++
      if s.current ≠ [] then [⟨msg.suppressResponse, s.current, false⟩] else []

/-- `FragmentWriteRequest`. -/
def fragmentWriteRequest (f : Fragmenter) (msg : WriteRequestMessage) :
    List WriteRequestMessage :=
  if msg.writeRequests = [] then [msg]
  else
    let s := Pack.run [] (fun c x => c ++ [x]) estimateAttributeDataIBSize 20 f.maxPayload
      ⟨[], [], 0⟩ msg.writeRequests
    s.chunks.map (fun c => ⟨msg.suppressResponse, msg.timedRequest, c, true⟩) ++
      if s.current ≠ [] then [⟨msg.suppressResponse, msg.timedRequest, s.current, false⟩]
      else []

/-- `FragmentReportData`: the attribute reports, then the event reports, into the same chunks
with a base overhead of 30. The chunks emitted inside the loops ask for a response. -/
def fragmentReportData (f : Fragmenter) (msg : ReportDataMessage) : List ReportDataMessage :=
  if msg.attributeReports = [] ∧ msg.eventReports = [] then [msg]
  else
    let s := Pack.run ([], []) (fun c x => (c.1 ++ [x], c.2)) estimateAttributeReportIBSize 30
      f.maxPayload ⟨[], ([], []), 0⟩ msg.attributeReports
    let s := Pack.run ([], []) (fun c x => (c.1, c.2 ++ [x])) estimateEventReportIBSize 30
      f.maxPayload s msg.eventReports
    s.chunks.map (fun c => ⟨msg.subscriptionID, c.1, c.2, true, false⟩) ++
      if s.current.1 ≠ [] ∨ s.current.2 ≠ [] then
        [⟨msg.subscriptionID, s.current.1, s.current.2, false, msg.suppressResponse⟩]
      else []

end Fragmenter

/-! ## What the assembler does with a chunk -/

namespace Assembler

variable {a : Assembler}

/-- **A chunk of another kind is refused and changes nothing.** -/
theorem add_busy (ha : a.chunkType ≠ .none) :
    (a.chunkType ≠ .writeRequest → ∀ m, a.addWriteRequest m = (.error .inProgress, a)) ∧
    (a.chunkType ≠ .reportData → ∀ m, a.addReportData m = (.error .inProgress, a)) ∧
    (a.chunkType ≠ .invokeResponse → ∀ m, a.addInvokeResponse m = (.error .inProgress, a)) := by
  refine ⟨fun h m => ?_, fun h m => ?_, fun h m => ?_⟩ <;>
    simp [addWriteRequest, addReportData, addInvokeResponse, ha, h]

/-- An idle assembler takes the header from the chunk, then gathers it. -/
theorem addInvokeResponse_idle (ha : a.chunkType = .none) (m : InvokeResponseMessage) :
    a.addInvokeResponse m =
      addInvokeResponse { a with chunkType := .invokeResponse,
                                 suppressResponse := m.suppressResponse, invokeResponses := [] } m := by
  simp [addInvokeResponse, ha]

/-- A gathering assembler appends the chunk's items, and answers with the message and resets on
the last chunk. -/
theorem addInvokeResponse_gathering (ha : a.chunkType = .invokeResponse)
    (m : InvokeResponseMessage) :
    a.addInvokeResponse m =
      if m.moreChunkedMessages then
        (.ok none, { a with invokeResponses := a.invokeResponses ++ m.invokeResponses })
      else (.ok (some ⟨a.suppressResponse, a.invokeResponses ++ m.invokeResponses, false⟩),
        { a with chunkType := .none, invokeResponses := [], suppressResponse := false }) := by
  cases hm : m.moreChunkedMessages <;> simp [addInvokeResponse, ha, hm]

theorem addWriteRequest_idle (ha : a.chunkType = .none) (m : WriteRequestMessage) :
    a.addWriteRequest m =
      addWriteRequest { a with chunkType := .writeRequest,
                               suppressResponse := m.suppressResponse,
                               timedRequest := m.timedRequest, writeRequests := [] } m := by
  simp [addWriteRequest, ha]

theorem addWriteRequest_gathering (ha : a.chunkType = .writeRequest) (m : WriteRequestMessage) :
    a.addWriteRequest m =
      if m.moreChunkedMessages then
        (.ok none, { a with writeRequests := a.writeRequests ++ m.writeRequests })
      else (.ok (some ⟨a.suppressResponse, a.timedRequest, a.writeRequests ++ m.writeRequests,
          false⟩),
        { a with chunkType := .none, writeRequests := [], suppressResponse := false,
                 timedRequest := false }) := by
  cases hm : m.moreChunkedMessages <;> simp [addWriteRequest, ha, hm]

theorem addReportData_idle (ha : a.chunkType = .none) (m : ReportDataMessage) :
    a.addReportData m =
      addReportData { a with chunkType := .reportData,
                             suppressResponse := m.suppressResponse,
                             subscriptionID := m.subscriptionID,
                             attributeReports := [], eventReports := [] } m := by
  simp [addReportData, ha]

theorem addReportData_gathering (ha : a.chunkType = .reportData) (m : ReportDataMessage) :
    a.addReportData m =
      if m.moreChunkedMessages then
        (.ok none, { a with attributeReports := a.attributeReports ++ m.attributeReports,
                            eventReports := a.eventReports ++ m.eventReports })
      else (.ok (some ⟨a.subscriptionID, a.attributeReports ++ m.attributeReports,
          a.eventReports ++ m.eventReports, false, a.suppressResponse⟩),
        { a with chunkType := .none, attributeReports := [], eventReports := [],
                 suppressResponse := false, subscriptionID := none }) := by
  cases hm : m.moreChunkedMessages <;> simp [addReportData, ha, hm]

end Assembler

/-! ## Feeding the chunks of one message -/

section Feed

variable {μ : Type} {add : Assembler → μ → Except ChunkingError (Option μ) × Assembler}

/-- **Gathering.** When each chunk of `ms` takes the assembler from the state `st pre` for the
chunks fed before it to the state for those and itself, answering incomplete, the run answers
incomplete to each and then what the last chunk answers. -/
theorem feed_gather (st : List μ → Assembler) {ms : List μ} {last : μ}
    {r : Except ChunkingError (Option μ)} {a' : Assembler}
    (hstep : ∀ pre m, m ∈ ms → add (st pre) m = (.ok none, st (pre ++ [m])))
    (pre : List μ) (hlast : add (st (pre ++ ms)) last = (r, a')) :
    feed add (st pre) (ms ++ [last]) = (ms.map (fun _ => .ok none) ++ [r], a') := by
  induction ms generalizing pre with
  | nil =>
    rw [List.append_nil] at hlast
    simp [feed, hlast]
  | cons m ms ih =>
    have hm := hstep pre m List.mem_cons_self
    have hrest := ih (fun pre' m' hm' => hstep pre' m' (List.mem_cons_of_mem m hm')) (pre ++ [m])
      (by simpa using hlast)
    simp [feed, hm, hrest]

/-- The run from an assembler on which the first chunk acts as on `st []`. -/
theorem feed_chunks (a₀ : Assembler) (st : List μ → Assembler) {ms : List μ} {last : μ}
    {r : Except ChunkingError (Option μ)} {a' : Assembler}
    (hfirst : ∀ m ∈ (ms ++ [last]).head?, add a₀ m = add (st []) m)
    (hstep : ∀ pre m, m ∈ ms → add (st pre) m = (.ok none, st (pre ++ [m])))
    (hlast : add (st ms) last = (r, a')) :
    feed add a₀ (ms ++ [last]) = (List.replicate ms.length (.ok none) ++ [r], a') := by
  obtain ⟨m, rest, hsplit⟩ := List.exists_cons_of_ne_nil (by simp : ms ++ [last] ≠ [])
  have hstart : feed add a₀ (ms ++ [last]) = feed add (st []) (ms ++ [last]) := by
    rw [hsplit]
    simp [feed, hfirst m (by simp [hsplit])]
  rw [hstart, feed_gather st hstep [] (by simpa using hlast), List.map_const']

end Feed

/-! ## The chunks of one message -/

theorem estimateInvokeResponseIBSize_pos (ib : InvokeResponseIB) :
    0 < estimateInvokeResponseIBSize ib := by
  unfold estimateInvokeResponseIBSize
  omega

theorem estimateAttributeDataIBSize_pos (ib : AttributeDataIB) :
    0 < estimateAttributeDataIBSize ib := by
  unfold estimateAttributeDataIBSize
  omega

theorem estimateAttributeReportIBSize_pos (ib : AttributeReportIB) :
    0 < estimateAttributeReportIBSize ib := by
  unfold estimateAttributeReportIBSize
  omega

theorem estimateEventReportIBSize_pos (ib : EventReportIB) :
    0 < estimateEventReportIBSize ib := by
  unfold estimateEventReportIBSize
  omega

namespace Fragmenter

/-- **InvokeResponse chunks reassemble.** The chunks of an InvokeResponse with items, fed in
order into a new assembler, are answered incomplete but the last, which gives the message back
with `MoreChunkedMessages` cleared, and leave the assembler new; only the last chunk has
`MoreChunkedMessages` cleared, each holds an item, and each of two items or more fits. -/
theorem fragmentInvokeResponse_assembles (f : Fragmenter) (m : InvokeResponseMessage)
    (hm : m.invokeResponses ≠ []) :
    let cs := f.fragmentInvokeResponse m
    feed Assembler.addInvokeResponse newAssembler cs =
        (List.replicate (cs.length - 1) (.ok none) ++
          [.ok (some { m with moreChunkedMessages := false })], newAssembler) ∧
      cs.map (·.moreChunkedMessages) = List.replicate (cs.length - 1) true ++ [false] ∧
      ∀ c ∈ cs, c.invokeResponses ≠ [] ∧ (2 ≤ c.invokeResponses.length →
        (c.invokeResponses.map estimateInvokeResponseIBSize).sum + 20 ≤ f.maxPayload) := by
  intro cs
  have hrun := Pack.run_list estimateInvokeResponseIBSize_pos 20 f.maxPayload hm
  generalize hs : Pack.run _ _ _ _ _ _ _ = s at hrun
  obtain ⟨hcur, hflat, hfit⟩ := hrun
  let ms := s.chunks.map fun c => (⟨m.suppressResponse, c, true⟩ : InvokeResponseMessage)
  let last : InvokeResponseMessage := ⟨m.suppressResponse, s.current, false⟩
  have hcs : cs = ms ++ [last] := by
    simp [cs, fragmentInvokeResponse, hm, hs, hcur, ms, last]
  -- the assembler once the chunks `pre` have been gathered
  let st : List InvokeResponseMessage → Assembler := fun pre =>
    { chunkType := .invokeResponse, suppressResponse := m.suppressResponse,
      invokeResponses := (pre.map (·.invokeResponses)).flatten }
  have hfirst : ∀ x ∈ (ms ++ [last]).head?,
      newAssembler.addInvokeResponse x = (st []).addInvokeResponse x := by
    intro x hx
    have hsr : x.suppressResponse = m.suppressResponse := by
      have := List.mem_of_mem_head? hx
      simp only [ms, last, List.mem_append, List.mem_map, List.mem_singleton] at this
      rcases this with ⟨c, -, rfl⟩ | rfl <;> rfl
    rw [Assembler.addInvokeResponse_idle rfl, hsr]
    rfl
  have hstep : ∀ pre x, x ∈ ms →
      (st pre).addInvokeResponse x = (.ok none, st (pre ++ [x])) := by
    intro pre x hx
    obtain ⟨c, -, rfl⟩ := List.mem_map.mp hx
    rw [Assembler.addInvokeResponse_gathering rfl]
    simp [st]
  have hlast : (st ms).addInvokeResponse last =
      (.ok (some { m with moreChunkedMessages := false }), newAssembler) := by
    have hitems : (ms.map (·.invokeResponses)).flatten ++ s.current = m.invokeResponses := by
      simpa [ms, Function.comp_def] using hflat
    rw [Assembler.addInvokeResponse_gathering rfl]
    simp [st, last, hitems, newAssembler]
  rw [hcs]
  refine ⟨?_, by simp [ms, last, Function.comp_def], fun c hc => ?_⟩
  · rw [feed_chunks newAssembler st hfirst hstep hlast]
    simp
  · rcases List.mem_append.mp hc with hc | hc
    · obtain ⟨c', hc', rfl⟩ := List.mem_map.mp hc
      exact hfit c' (List.mem_append_left _ hc')
    · rw [List.mem_singleton.mp hc]
      exact hfit s.current (by simp)

/-- **WriteRequest chunks reassemble**, with the same timed-request flag. -/
theorem fragmentWriteRequest_assembles (f : Fragmenter) (m : WriteRequestMessage)
    (hm : m.writeRequests ≠ []) :
    let cs := f.fragmentWriteRequest m
    feed Assembler.addWriteRequest newAssembler cs =
        (List.replicate (cs.length - 1) (.ok none) ++
          [.ok (some { m with moreChunkedMessages := false })], newAssembler) ∧
      cs.map (·.moreChunkedMessages) = List.replicate (cs.length - 1) true ++ [false] ∧
      ∀ c ∈ cs, c.writeRequests ≠ [] ∧ (2 ≤ c.writeRequests.length →
        (c.writeRequests.map estimateAttributeDataIBSize).sum + 20 ≤ f.maxPayload) := by
  intro cs
  have hrun := Pack.run_list estimateAttributeDataIBSize_pos 20 f.maxPayload hm
  generalize hs : Pack.run _ _ _ _ _ _ _ = s at hrun
  obtain ⟨hcur, hflat, hfit⟩ := hrun
  let ms := s.chunks.map fun c =>
    (⟨m.suppressResponse, m.timedRequest, c, true⟩ : WriteRequestMessage)
  let last : WriteRequestMessage := ⟨m.suppressResponse, m.timedRequest, s.current, false⟩
  have hcs : cs = ms ++ [last] := by
    simp [cs, fragmentWriteRequest, hm, hs, hcur, ms, last]
  -- the assembler once the chunks `pre` have been gathered
  let st : List WriteRequestMessage → Assembler := fun pre =>
    { chunkType := .writeRequest, suppressResponse := m.suppressResponse,
      timedRequest := m.timedRequest, writeRequests := (pre.map (·.writeRequests)).flatten }
  have hfirst : ∀ x ∈ (ms ++ [last]).head?,
      newAssembler.addWriteRequest x = (st []).addWriteRequest x := by
    intro x hx
    have hheader : x.suppressResponse = m.suppressResponse ∧ x.timedRequest = m.timedRequest := by
      have := List.mem_of_mem_head? hx
      simp only [ms, last, List.mem_append, List.mem_map, List.mem_singleton] at this
      rcases this with ⟨c, -, rfl⟩ | rfl <;> exact ⟨rfl, rfl⟩
    rw [Assembler.addWriteRequest_idle rfl, hheader.1, hheader.2]
    rfl
  have hstep : ∀ pre x, x ∈ ms → (st pre).addWriteRequest x = (.ok none, st (pre ++ [x])) := by
    intro pre x hx
    obtain ⟨c, -, rfl⟩ := List.mem_map.mp hx
    rw [Assembler.addWriteRequest_gathering rfl]
    simp [st]
  have hlast : (st ms).addWriteRequest last =
      (.ok (some { m with moreChunkedMessages := false }), newAssembler) := by
    have hitems : (ms.map (·.writeRequests)).flatten ++ s.current = m.writeRequests := by
      simpa [ms, Function.comp_def] using hflat
    rw [Assembler.addWriteRequest_gathering rfl]
    simp [st, last, hitems, newAssembler]
  rw [hcs]
  refine ⟨?_, by simp [ms, last, Function.comp_def], fun c hc => ?_⟩
  · rw [feed_chunks newAssembler st hfirst hstep hlast]
    simp
  · rcases List.mem_append.mp hc with hc | hc
    · obtain ⟨c', hc', rfl⟩ := List.mem_map.mp hc
      exact hfit c' (List.mem_append_left _ hc')
    · rw [List.mem_singleton.mp hc]
      exact hfit s.current (by simp)

/-- **ReportData chunks reassemble, but for `SuppressResponse`.** The same as for the other
messages, except that the message comes back with `SuppressResponse` set only when it was set and
there was a single chunk: the fragmenter clears it on every chunk but the last, and the assembler
keeps the first chunk's. -/
theorem fragmentReportData_assembles (f : Fragmenter) (m : ReportDataMessage)
    (hm : m.attributeReports ≠ [] ∨ m.eventReports ≠ []) :
    let cs := f.fragmentReportData m
    feed Assembler.addReportData newAssembler cs =
        (List.replicate (cs.length - 1) (.ok none) ++
          [.ok (some { m with moreChunkedMessages := false,
                              suppressResponse := m.suppressResponse && cs.length == 1 })],
          newAssembler) ∧
      cs.map (·.moreChunkedMessages) = List.replicate (cs.length - 1) true ++ [false] ∧
      ∀ c ∈ cs, (c.attributeReports ≠ [] ∨ c.eventReports ≠ []) ∧
        (2 ≤ c.attributeReports.length + c.eventReports.length →
          (c.attributeReports.map estimateAttributeReportIBSize).sum +
            (c.eventReports.map estimateEventReportIBSize).sum + 30 ≤ f.maxPayload) := by
  intro cs
  have hrun := Pack.run_prod estimateAttributeReportIBSize_pos estimateEventReportIBSize_pos 30
    f.maxPayload hm
  generalize hs : Pack.run ([], []) (fun c y => (c.1, c.2 ++ [y])) estimateEventReportIBSize 30
    f.maxPayload _ m.eventReports = s at hrun
  obtain ⟨hcur, hfst, hsnd, hfit⟩ := hrun
  let ms := s.chunks.map fun c =>
    (⟨m.subscriptionID, c.1, c.2, true, false⟩ : ReportDataMessage)
  let last : ReportDataMessage :=
    ⟨m.subscriptionID, s.current.1, s.current.2, false, m.suppressResponse⟩
  have hcs : cs = ms ++ [last] := by
    have hhm : ¬(m.attributeReports = [] ∧ m.eventReports = []) := by tauto
    simp only [cs, fragmentReportData, if_neg hhm, hs, if_pos hcur, ms, last]
  -- the header is the first chunk's: its `SuppressResponse` is cleared when another follows
  let sr₀ := m.suppressResponse && s.chunks.isEmpty
  let st : List ReportDataMessage → Assembler := fun pre =>
    { chunkType := .reportData, suppressResponse := sr₀, subscriptionID := m.subscriptionID,
      attributeReports := (pre.map (·.attributeReports)).flatten,
      eventReports := (pre.map (·.eventReports)).flatten }
  have hfirst : ∀ x ∈ (ms ++ [last]).head?,
      newAssembler.addReportData x = (st []).addReportData x := by
    intro x hx
    have hheader : x.suppressResponse = sr₀ ∧ x.subscriptionID = m.subscriptionID := by
      cases hc : s.chunks with
      | nil =>
        simp only [ms, hc, List.map_nil, List.nil_append, List.head?_cons, Option.mem_def,
          Option.some.injEq] at hx
        simp [← hx, last, sr₀, hc]
      | cons c cs' =>
        simp only [ms, hc, List.map_cons, List.cons_append, List.head?_cons, Option.mem_def,
          Option.some.injEq] at hx
        simp [← hx, sr₀, hc]
    rw [Assembler.addReportData_idle rfl, hheader.1, hheader.2]
    rfl
  have hstep : ∀ pre x, x ∈ ms → (st pre).addReportData x = (.ok none, st (pre ++ [x])) := by
    intro pre x hx
    obtain ⟨c, -, rfl⟩ := List.mem_map.mp hx
    rw [Assembler.addReportData_gathering rfl]
    simp [st]
  have hlast : (st ms).addReportData last =
      (.ok (some { m with moreChunkedMessages := false, suppressResponse := sr₀ }),
        newAssembler) := by
    have hattrs : (ms.map (·.attributeReports)).flatten ++ s.current.1 = m.attributeReports := by
      simpa [ms, Function.comp_def] using hfst
    have hevents : (ms.map (·.eventReports)).flatten ++ s.current.2 = m.eventReports := by
      simpa [ms, Function.comp_def] using hsnd
    rw [Assembler.addReportData_gathering rfl]
    simp [st, last, hattrs, hevents, newAssembler]
  rw [hcs]
  refine ⟨?_, by simp [ms, last, Function.comp_def], fun c hc => ?_⟩
  · rw [feed_chunks newAssembler st hfirst hstep hlast]
    cases hc : s.chunks <;> simp [sr₀, ms, hc]
  · rcases List.mem_append.mp hc with hc | hc
    · obtain ⟨c', hc', rfl⟩ := List.mem_map.mp hc
      exact hfit c' (List.mem_append_left _ hc')
    · rw [List.mem_singleton.mp hc]
      exact hfit s.current (by simp)

/-- Two attribute reports that ask for no response, cut for a payload of one byte: two chunks,
and the message comes back asking for a response. -/
theorem fragmentReportData_assembles_two_chunks :
    let m : ReportDataMessage := ⟨none, [⟨none, none⟩, ⟨none, none⟩], [], false, true⟩
    (m.attributeReports ≠ [] ∨ m.eventReports ≠ []) ∧
      (feed Assembler.addReportData newAssembler ((newFragmenter 1).fragmentReportData m)).1 =
        [.ok none, .ok (some { m with suppressResponse := false })] := by
  intro m
  have hm : m.attributeReports ≠ [] ∨ m.eventReports ≠ [] := .inl (by simp [m])
  have hcs : (newFragmenter 1).fragmentReportData m =
      [⟨none, [⟨none, none⟩], [], true, false⟩, ⟨none, [⟨none, none⟩], [], false, true⟩] := by
    decide
  have h := fragmentReportData_assembles (newFragmenter 1) m hm
  dsimp only at h
  rw [hcs] at h ⊢
  rw [h.1]
  decide

/-- The same message: the last answer is not the message that was cut. -/
theorem fragmentReportData_suppressResponse_lost :
    let m : ReportDataMessage := ⟨none, [⟨none, none⟩, ⟨none, none⟩], [], false, true⟩
    m.attributeReports ≠ [] ∧ (newFragmenter 1).maxPayload = 1 ∧
      (feed Assembler.addReportData newAssembler ((newFragmenter 1).fragmentReportData m)).1.getLast? ≠
        some (.ok (some { m with moreChunkedMessages := false })) := by
  decide

end Fragmenter

end Matter.Im
