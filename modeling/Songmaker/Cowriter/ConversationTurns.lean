import Songmaker.Cowriter.History
import Songmaker.Foundation.TransitionSystem

namespace Songmaker.Cowriter.ConversationTurns

open Songmaker.Foundation
open Songmaker.Foundation.BudgetedTail
open Songmaker.Cowriter.History

/-- What one turn read, folded and sent. -/
structure Turn where
  budget : Nat
  boundary : Option Nat
  history : List ChatMessage
  folded : List ChatMessage
  tail : List ChatMessage
  userMessage : ChatMessage
  sent : List ApiMessage
deriving DecidableEq

/-- The rows of a conversation. `folded` and `turns` are records that the
program does not keep: the messages in the order they were folded into the
stored summary, and the turns that reached the model. -/
structure Conversation where
  messages : List ChatMessage
  summary : Option ConversationSummary
  nextId : Nat
  folded : List Nat
  turns : List Turn
deriving DecidableEq

def Conversation.boundary (conversation : Conversation) : Option Nat :=
  conversation.summary.bind (·.lastSummarizedMessageId)

/-- The unanswered last message of a conversation, when a turn sends it again. -/
def unansweredMessageSentAgain (history : List ChatMessage) (message : List Char) :
    Option ChatMessage :=
  match history.getLast? with
  | some last => if last.role = .user ∧ last.content = message then some last else none
  | none => none

/-- The messages before the one a turn sends. -/
def historyBefore (history : List ChatMessage) (message : List Char) : List ChatMessage :=
  match unansweredMessageSentAgain history message with
  | some _ => history.dropLast
  | none => history

/-- Stores a message with the next id. -/
def appendMessage (conversation : Conversation) (role : Role) (content : List Char) :
    Conversation :=
  { conversation with
    messages := conversation.messages ++ [⟨conversation.nextId, role, content⟩]
    nextId := conversation.nextId + 1 }

/-- Commits the summary of a windowed history, which `folded` went into. -/
def saveCompactedSummary (conversation : Conversation) (history : List ChatMessage)
    (compacted : CompactedHistory) (folded : List ChatMessage) : Conversation :=
  match compacted.windowed, compacted.summaryText with
  | true, some summaryText =>
      { conversation with
        summary := some
          { summaryText := summaryText
            lastSummarizedMessageId := compacted.lastSummarizedMessageId
            messageCount := history.length
            tokenCount := countTokens summaryText + messageTokens compacted.tail }
        folded := conversation.folded ++ folded.map (·.id) }
  | _, _ => conversation

/-- Where a turn's request can die. -/
inductive Crash where
  | beforeSummary
  | beforeMessage
deriving DecidableEq

def foldingSummarizer : Summarizer :=
  fun previous newMessages => some (foldSummary previous newMessages)

/-- `wrapped` is the message in the envelope of its turn. -/
def prepareChatMessages (conversation : Conversation) (message wrapped : List Char)
    (tailBudget : Nat) (crash : Option Crash) : Conversation :=
  let retried := unansweredMessageSentAgain conversation.messages message
  let history := historyBefore conversation.messages message
  let compacted :=
    compactConversation history tailBudget conversation.summary (some foldingSummarizer)
  let folded := if compacted.windowed then
    messagesToFold history tailBudget conversation.summary else []
  let saved := saveCompactedSummary conversation history compacted folded
  match crash with
  | some .beforeSummary => conversation
  | some .beforeMessage => saved
  | none =>
      let userMessage := retried.getD ⟨conversation.nextId, .user, message⟩
      let stored := if retried.isSome then saved else appendMessage saved .user message
      { stored with
        turns := stored.turns ++
          [{ budget := tailBudget
             boundary := conversation.boundary
             history := conversation.messages
             folded := folded
             tail := compacted.tail
             userMessage := userMessage
             sent := compacted.toApiMessages ++ [⟨.user, wrapped⟩] }] }

/-- Deletes rows, as the purge of a song does with the messages about it. The
foreign key of the summary lets its boundary go. -/
def deleteMessages (conversation : Conversation) (gone : List Nat) : Conversation :=
  { conversation with
    messages := conversation.messages.filter (·.id ∉ gone)
    summary := conversation.summary.map fun summary =>
      { summary with
        lastSummarizedMessageId := summary.lastSummarizedMessageId.filter (· ∉ gone) } }

/-- A turn of the user, which a crash may cut short, the reply, and the removal of messages. -/
inductive Action where
  | turn (message wrapped : List Char) (tailBudget : Nat) (crash : Option Crash)
  | reply (content : List Char)
  | delete (gone : List Nat)
deriving DecidableEq

/-- What a step does; `none` where it cannot be taken. -/
def act (conversation : Conversation) : Action → Option Conversation
  | .turn message wrapped tailBudget crash =>
      some (prepareChatMessages conversation message wrapped tailBudget crash)
  | .reply content => some (appendMessage conversation .assistant content)
  | .delete gone => some (deleteMessages conversation gone)

def opened : Conversation where
  messages := []
  summary := none
  nextId := 0
  folded := []
  turns := []

def conversations : TransitionSystem Conversation Action :=
  .ofAct (· = opened) act

/-- Every message after the summary boundary is in the tail, folded by this
turn or the message of the turn itself; the tail is sent as it is, and within
the budget unless it is a single message. -/
structure Turn.Kept (turn : Turn) : Prop where
  covered : ∀ message ∈ turn.history, (∀ boundary ∈ turn.boundary, boundary < message.id) →
    message ∈ turn.tail ∨ message ∈ turn.folded ∨ message = turn.userMessage
  sent : turn.tail.map ChatMessage.toApiMessage <:+: turn.sent
  fits : messageTokens turn.tail ≤ turn.budget ∨ turn.tail.length ≤ 1

/-- No message is folded twice, and every turn is kept. -/
def Kept (conversation : Conversation) : Prop :=
  conversation.folded.Nodup ∧ ∀ turn ∈ conversation.turns, turn.Kept

/-- Whether a turn finds its boundary. A turn that folds must have the boundary
in front of the messages it sends, or none of those folded before. -/
def FindsBoundary (conversation : Conversation) : Action → Prop
  | .turn message _ tailBudget crash =>
      let history := historyBefore conversation.messages message
      crash = some .beforeSummary ∨ messageTokens history ≤ tailBudget ∨ history.length ≤ 1 ∨
        (∃ sent ∈ history, conversation.boundary = some sent.id) ∨
        ∀ sent ∈ history, sent.id ∉ conversation.folded
  | _ => True

instance (conversation : Conversation) : DecidablePred (FindsBoundary conversation)
  | .turn message _ tailBudget crash =>
      inferInstanceAs (Decidable
        (crash = some .beforeSummary ∨
          messageTokens (historyBefore conversation.messages message) ≤ tailBudget ∨
          (historyBefore conversation.messages message).length ≤ 1 ∨
          (∃ sent ∈ historyBefore conversation.messages message,
            conversation.boundary = some sent.id) ∨
          ∀ sent ∈ historyBefore conversation.messages message,
            sent.id ∉ conversation.folded))
  | .reply _ => .isTrue trivial
  | .delete _ => .isTrue trivial

end Songmaker.Cowriter.ConversationTurns
