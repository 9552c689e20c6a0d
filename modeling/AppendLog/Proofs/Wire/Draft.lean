import AppendLog.Request.Group

/-!
# Drafts

A draft is a builder of requests with its arguments, so that a statement can range over all of them.
`Draft.request_eq` says once what every builder makes, so that proofs about requests go by the words
of a draft and do not open the builders.
-/

namespace AppendLog

/-- A builder of requests with its arguments. -/
inductive Draft where
  | acknowledge (key group : String) (ids : List EntryId)
  | append (key : String) (options : AppendOptions) (body : Fields)
  | claim (key : String) (consumer : Consumer) (options : ClaimOptions) (ids : List EntryId)
      (idsOnly : Bool)
  | createGroup (key group : String) (position : Position) (makeStream : Bool)
  | moveGroup (key group : String) (position : Position)
  | removeConsumer (key : String) (consumer : Consumer)
  | length (key : String)
  | pendingOverview (key group : String)
  | pendingList (key group : String) (consumer : Option String) (range : Range) (limit : Limit)
  | range (key : String) (range : Range) (limit : Limit)
  | reverseRange (key : String) (range : Range) (limit : Limit)
  | read (options : ReadOptions) (streams : List (String × Position))
  | readAsConsumer (consumer : Consumer) (options : ReadOptions)
      (streams : List (String × GroupPosition))

namespace Draft

/-- The request of a draft, refused when its arguments break a rule. -/
def request : Draft → Except Fault Request
  | acknowledge key group ids => Request.acknowledge key group ids
  | append key options body => Request.append key options body
  | claim key consumer options ids idsOnly => Request.claim key consumer options ids idsOnly
  | createGroup key group position makeStream => Request.createGroup key group position makeStream
  | moveGroup key group position => Request.moveGroup key group position
  | removeConsumer key consumer => .ok (Request.removeConsumer key consumer)
  | length key => .ok (Request.length key)
  | pendingOverview key group => Request.pendingOverview key group
  | pendingList key group consumer within limit =>
    Request.pendingList key group consumer within limit
  | range key within limit => .ok (Request.range key within limit)
  | reverseRange key within limit => .ok (Request.reverseRange key within limit)
  | read options streams => Request.read options streams
  | readAsConsumer consumer options streams => Request.readAsConsumer consumer options streams

def command : Draft → Command
  | acknowledge .. => .acknowledge
  | append .. => .append
  | claim .. => .claim
  | createGroup .. => .createGroup
  | moveGroup .. => .moveGroup
  | removeConsumer .. => .removeConsumer
  | length .. => .length
  | pendingOverview .. | pendingList .. => .pending
  | range .. => .range
  | reverseRange .. => .reverseRange
  | read .. => .read
  | readAsConsumer .. => .readAsConsumer

/-- The words of the arguments, in order. Those of an append come before its body. -/
def words : Draft → List String
  | acknowledge key group ids => key :: group :: ids.map EntryId.text
  | append key options _ => key :: (options.trimWords ++ [options.idWord])
  | claim key consumer options ids idsOnly =>
    key :: consumer.group :: consumer.name :: Decimal.write options.minIdle.milliseconds.toNat ::
      (ids.map EntryId.text ++ (options.words ++ Clause.flag "JUSTID" idsOnly))
  | createGroup key group position makeStream =>
    key :: group :: position.text :: Clause.flag "MKSTREAM" makeStream
  | moveGroup key group position => [key, group, position.text]
  | removeConsumer key consumer => [key, consumer.group, consumer.name]
  | length key => [key]
  | pendingOverview key group => [key, group]
  | pendingList key group consumer within limit =>
    key :: group :: within.lowerText :: within.upperText ::
      Decimal.write (limit.count?.getD Request.unlimitedPending).toNat :: consumer.toList
  | range key within limit =>
    key :: within.lowerText :: within.upperText ::
      Clause.number "COUNT" (limit.count?.map UInt64.toNat)
  | reverseRange key within limit =>
    key :: within.upperText :: within.lowerText ::
      Clause.number "COUNT" (limit.count?.map UInt64.toNat)
  | read options streams =>
    options.words ++ Request.streamWords (streams.map fun (key, position) => (key, position.text))
  | readAsConsumer consumer options streams =>
    "GROUP" :: consumer.group :: consumer.name :: (options.words ++
      Request.streamWords (streams.map fun (key, position) => (key, position.text)))

/-- The tokens behind the words, which need not be texts. -/
def body : Draft → List Token
  | append _ _ fields => fields.pairs.flatMap fun (name, value) => [name.toUTF8, value]
  | _ => []

/-- A check that was passed is behind a result. -/
theorem of_check {broken : Prop} [Decidable broken] {fault : Fault} {next : Except Fault Request}
    {request : Request} (h : (if broken then .error fault else next) = .ok request) :
    ¬ broken ∧ next = .ok request := by
  split at h
  · cases h
  · next hkept => exact ⟨hkept, h⟩

variable {draft : Draft} {request : Request}

/-- **What a builder makes.** Whatever it checks before, a request has the words of the draft. -/
theorem request_eq (h : draft.request = .ok request) :
    request = ⟨draft.command, draft.words.map String.toUTF8 ++ draft.body⟩ := by
  have hmade : (.ok request : Except Fault Request) =
      .ok ⟨draft.command, draft.words.map String.toUTF8 ++ draft.body⟩ := by
    cases draft with
    | acknowledge | read =>
      rw [← (of_check (of_check h).2).2]
      simp [Request.ofTexts, command, words, body]
    | append =>
      rw [← (of_check h).2]
      simp [command, words, body]
    | removeConsumer | length | range | reverseRange =>
      rw [← h]
      simp [Draft.request, Request.removeConsumer, Request.length, Request.range,
        Request.reverseRange, Request.ofTexts, command, words, body]
    | _ =>
      rw [← (of_check h).2]
      simp [Request.ofTexts, command, words, body]
  exact Except.ok.inj hmade

end Draft

end AppendLog
