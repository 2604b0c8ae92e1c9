import Zms.Client.Producer.Send
import Zms.Metadata

/-! `KafkaProducerProxy` and its three ways to send. -/

set_option autoImplicit false

namespace Zms.Client.Producer.Kafka

structure ProducerRecord where
  topic : String
  key : Option String
  value : Option (List UInt8)
  deriving DecidableEq, Repr

structure RecordMetadata where
  offset : Int
  topic : String
  partition : Int
  deriving DecidableEq, Repr

def RecordMetadata.success (metadata : RecordMetadata) : SendResult :=
  .buildSuccessResult metadata.offset (some "") (some metadata.topic) metadata.partition

/-- `send` throws, or returns a future whose `get` returns or throws. -/
inductive SyncOutcome where
  | sendThrew (throwable : Throwable)
  | returned (metadata : RecordMetadata)
  | interrupted
  | execution (timeout : Bool) (cause : Option (Option String))
  | timeout
  deriving DecidableEq, Repr

inductive AsyncOutcome where
  | sendThrew (throwable : Throwable)
  | completed (metadata : RecordMetadata)
  | failed (exception : Throwable)
  deriving DecidableEq, Repr

/-- The answer to an `ExecutionException` with the message of its cause, if it has one. -/
def executionError (cause : Option (Option String)) : SendResult :=
  let errMsg := "execution got exception when syncSend and wait message: "
  match cause.join with
  | some message => .buildErrorResult (if isNotBlank (some message) then errMsg ++ message else errMsg)
  | none => .buildErrorResult errMsg

def syncSend (running : Bool) (name : String) (zmsMessage : ZmsMessage) (outcome : SyncOutcome) :
    Sending ProducerRecord :=
  if !running then ⟨none, [], 0, 0, [], .returned .FAILURE_NOTRUNNING⟩
  else
    let record : ProducerRecord := ⟨name, zmsMessage.key, zmsMessage.payload⟩
    match outcome with
    | .sendThrew throwable => ⟨some record, [], 0, 0, [], .threw throwable⟩
    | .returned metadata => wait record fun size => ⟨some record, [size], 1, 0, [], .returned metadata.success⟩
    | .interrupted => wait record fun size => ⟨some record, [size], 0, 1, [], .returned .FAILURE_INTERUPRION⟩
    | .execution timeout cause => wait record fun size =>
        ⟨some record, [size], 0, 1, [], .returned (if timeout then .FAILURE_TIMEOUT else executionError cause)⟩
    | .timeout => wait record fun size => ⟨some record, [size], 0, 1, [], .returned .FAILURE_TIMEOUT⟩
where
  /-- The size is marked after the send, so a null payload throws when the record is gone. -/
  wait (record : ProducerRecord) (rest : Nat → Sending ProducerRecord) : Sending ProducerRecord :=
    match record.value with
    | none => ⟨some record, [], 0, 0, [], nullPointer⟩
    | some payload => rest payload.length

def asyncSend (name : String) (zmsMessage : ZmsMessage) (outcome : AsyncOutcome) : Sending ProducerRecord :=
  let record : ProducerRecord := ⟨name, zmsMessage.key, zmsMessage.payload⟩
  match zmsMessage.payload with
  | none => ⟨none, [], 0, 0, [], nullPointer⟩
  | some payload =>
      match outcome with
      | .sendThrew throwable => ⟨some record, [payload.length], 0, 0, [], .threw throwable⟩
      | .failed exception => ⟨some record, [payload.length], 0, 1, [.onException exception], .void⟩
      | .completed metadata => ⟨some record, [payload.length], 1, 0, [.onResult metadata.success], .void⟩

/-- The record carries no key. -/
def oneway (name : String) (zmsMessage : ZmsMessage) (sendThrew : Option Throwable) :
    Sending ProducerRecord :=
  match zmsMessage.payload with
  | none => ⟨none, [], 0, 0, [], nullPointer⟩
  | some payload =>
      ⟨some ⟨name, none, zmsMessage.payload⟩, [payload.length], 0, 0, [],
        match sendThrew with
        | none => .void
        | some throwable => .threw throwable⟩

end Zms.Client.Producer.Kafka
