import Zms.Client.Producer.Send

/-! `RocketmqProducerProxy`: its three ways to send, and how a queue is chosen. -/

set_option autoImplicit false

namespace Zms.Client.Producer.Rocketmq

/-- The UTF-16 code units of a character. -/
def utf16 (c : Char) : List Int :=
  let code := c.toNat
  if code < 0x10000 then [code]
  else [0xD800 + (code - 0x10000) / 0x400, 0xDC00 + (code - 0x10000) % 0x400]

/-- `String.hashCode`, in 32 bit arithmetic. -/
def hashCode (text : String) : Int :=
  (text.toList.flatMap utf16).foldl (fun hash unit => (31 * hash + unit).bmod (2 ^ 32)) 0

/-- The message as handed to the client; `tags` and `keys` are absent when empty. -/
structure Message where
  topic : String
  tags : Option String
  keys : Option String
  flag : Int
  body : Option (List UInt8)
  waitStoreMsgOK : Bool
  properties : List (String × String)
  delayTimeLevel : Option Int
  deriving DecidableEq, Repr

def nonEmpty (text : Option String) : Option String := text.filter (· ≠ "")

def Message.new (topic : String) (tags keys : Option String) (flag : Int) (body : Option (List UInt8))
    (waitStoreMsgOK : Bool) : Message :=
  ⟨topic, nonEmpty tags, nonEmpty keys, flag, body, waitStoreMsgOK, [], none⟩

/-- Who picks the queue: the client by itself, or `hashSelector`. -/
inductive QueueRule where
  | client | hashSelector
  deriving DecidableEq, Repr

/-- The index `hashSelector` takes, which a negative remainder does not leave negative. -/
def hashIndex (keys : String) (size : Nat) : Nat :=
  let id := (hashCode keys).tmod size
  if id < 0 then (-id).toNat else id.toNat

/-- The queue chosen; `pick` is the client's own choice at that moment. -/
def QueueRule.select {Q : Type} (rule : QueueRule) (mqs : List Q) (message : Message) (pick : Q) : Option Q :=
  match rule with
  | .client => some pick
  | .hashSelector => message.keys.bind fun keys => mqs[hashIndex keys mqs.length]?

inductive SendStatus where
  | SEND_OK | FLUSH_DISK_TIMEOUT | FLUSH_SLAVE_TIMEOUT | SLAVE_NOT_AVAILABLE
  deriving DecidableEq, Repr

/-- The client's `SendResult`. -/
structure ClientSendResult where
  sendStatus : SendStatus
  queueOffset : Int
  offsetMsgId : Option String
  topic : String
  queueId : Int
  deriving DecidableEq, Repr

def ClientSendResult.success (send : ClientSendResult) : SendResult :=
  .buildSuccessResult send.queueOffset send.offsetMsgId (some send.topic) send.queueId

/-- What the client's `send` throws. -/
inductive Thrown where
  | MQClientException (message : Option String)
  | RemotingTimeoutException
  | RemotingException (message : Option String)
  | MQBrokerException (message : Option String)
  | InterruptedException
  | unchecked (throwable : Throwable)
  deriving DecidableEq, Repr

inductive SyncOutcome where
  | returned (send : ClientSendResult)
  | threw (thrown : Thrown)
  deriving DecidableEq, Repr

inductive AsyncOutcome where
  | onSuccess (send : ClientSendResult)
  | onException (throwable : Throwable)
  | threw (thrown : Thrown)
  deriving DecidableEq, Repr

/-- The message `syncSend` and `asyncSend` build. -/
def buildMessage (name : String) (zmsMessage : ZmsMessage) : Message :=
  let message := Message.new name zmsMessage.tags zmsMessage.key 0 zmsMessage.payload true
  { message with
    properties := message.properties ++ zmsMessage.properties.getD []
    delayTimeLevel :=
      if MsgConsumedStatus.RETRY_1S.level ≤ zmsMessage.delayLevel ∧
          zmsMessage.delayLevel ≤ MsgConsumedStatus.RETRY_2H.level then
        some zmsMessage.delayLevel
      else message.delayTimeLevel }

/-- The catch clauses of `syncSend`. -/
def syncCatch : Thrown → Reply
  | .MQClientException message =>
      .returned (.buildErrorResult (append "syncSend message MQClientException: " message))
  | .RemotingTimeoutException => .returned .FAILURE_TIMEOUT
  | .RemotingException message =>
      .returned (.buildErrorResult (append "syncSend message RemotingException: " message))
  | .MQBrokerException message =>
      .returned (.buildErrorResult (append "syncSend message MQBrokerException: " message))
  | .InterruptedException => .returned .FAILURE_INTERUPRION
  | .unchecked throwable => .threw throwable

/-- Those of `asyncSend` and `oneway`, which only log. -/
def logCatch : Thrown → Reply
  | .unchecked throwable => .threw throwable
  | .MQClientException _ | .RemotingTimeoutException | .RemotingException _ | .MQBrokerException _
  | .InterruptedException => .void

def syncSend (running : Bool) (name : String) (zmsMessage : ZmsMessage) (outcome : SyncOutcome) :
    Sending (Message × QueueRule) :=
  if !running then ⟨none, [], 0, 0, [], .returned .FAILURE_NOTRUNNING⟩
  else
    let message := buildMessage name zmsMessage
    match zmsMessage.payload with
    | none => ⟨none, [], 0, 1, [], nullPointer⟩
    | some payload =>
        let handed := (message, if message.keys = none then QueueRule.client else .hashSelector)
        match outcome with
        | .returned send =>
            -- every branch that marks a failure falls into the `finally` block, which marks again
            match send.sendStatus with
            | .SEND_OK => ⟨some handed, [payload.length], 1, 0, [], .returned send.success⟩
            | .FLUSH_DISK_TIMEOUT | .FLUSH_SLAVE_TIMEOUT | .SLAVE_NOT_AVAILABLE =>
                ⟨some handed, [payload.length], 0, 1 + 1, [], .returned .FAILURE_TIMEOUT⟩
        | .threw thrown => ⟨some handed, [payload.length], 0, 1, [], syncCatch thrown⟩

def asyncSend (name : String) (zmsMessage : ZmsMessage) (outcome : AsyncOutcome) :
    Sending (Message × QueueRule) :=
  let message := buildMessage name zmsMessage
  match zmsMessage.payload with
  | none => ⟨none, [], 0, 0, [], nullPointer⟩
  | some payload =>
      let handed := (message, QueueRule.client)
      match outcome with
      | .onSuccess send => ⟨some handed, [payload.length], 1, 0, [.onResult send.success], .void⟩
      | .onException throwable => ⟨some handed, [payload.length], 0, 1, [.onException throwable], .void⟩
      | .threw thrown => ⟨some handed, [payload.length], 0, 0, [], logCatch thrown⟩

def oneway (name : String) (zmsMessage : ZmsMessage) (outcome : SyncOutcome) :
    Sending (Message × QueueRule) :=
  let message := Message.new name zmsMessage.tags zmsMessage.key 0 zmsMessage.payload false
  match zmsMessage.payload with
  | none => ⟨none, [], 0, 0, [], nullPointer⟩
  | some payload =>
      let handed := (message, QueueRule.client)
      match outcome with
      | .returned _ => ⟨some handed, [payload.length], 0, 0, [], .void⟩
      | .threw thrown => ⟨some handed, [payload.length], 0, 0, [], logCatch thrown⟩

end Zms.Client.Producer.Rocketmq
