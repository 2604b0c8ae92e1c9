import Zms.Text.Quoting
import Zms.Text.Replacing

/-! The texts of the queries that `StatisticTopicProducerRepository`, `KafkaBrokerInfoRepository`
and `TopicDailyOffsetsRepository` send for the names of a request. -/

set_option autoImplicit false

namespace Zms.Service.InfluxQueries

open Text Quoting

/-- The nanoseconds, in 64 bits. -/
def getNanosecond (millisecond : Int) : Int := (millisecond * 1000000).bmod (2 ^ 64)

def placeholder (i : Nat) : String := "\x7b" ++ toString i ++ "\x7d"

/-- `StringFormatUtils.format`, for the texts of its arguments. -/
def format (sql : String) (objects : List String) : String :=
  objects.zipIdx.foldl (fun tempSql object => replace (placeholder object.2) object.1 tempSql) sql

/-- The text of a time; for null, of the time at which it is asked for. -/
def timeText (currentTimeMillis : Int) (time : Option Int) : String :=
  toString (getNanosecond (time.getD currentTimeMillis))

/-- The `format` for times. The clock may show another time for each. -/
def formatTimes (currentTimeMillis : Nat → Int) (sql : String) (times : List (Option Int)) : String :=
  times.zipIdx.foldl
    (fun tempSql time => replace (placeholder time.2) (timeText (currentTimeMillis time.2) time.1) tempSql) sql

structure StatisticTopicProducerQueryVO where
  beginTime : Option Int
  endTime : Option Int
  clientName : Option String
  ip : Option String
  type : Option String
  name : Option String

structure KafkaBrokerInfoQueryVO where
  beginTime : Option Int
  endTime : Option Int
  attributeName : Option String
  clusterName : Option String
  name : Option String

/-- A name that is null asks for nothing. -/
def condition (start : String) : Option String → String
  | some name => start ++ "'" ++ name ++ "'"
  | none => ""

/-- What the queries for the values of a measurement have in common. -/
def query (currentTimeMillis : Nat → Int) (sql : String) (times : List (Option Int))
    (conditions : List (String × Option String)) (ending : String) : String :=
  formatTimes currentTimeMillis sql times ++
    conditions.foldr (fun asked rest => condition asked.1 asked.2 ++ rest) ending

def intervalText (intervalTime : Option Int) : String := intervalTime.elim "null" toString

namespace StatisticTopicProducerRepository

def conditions (queryVo : StatisticTopicProducerQueryVO) : List (String × Option String) :=
  [(" and clientName=", queryVo.clientName), (" and ip=", queryVo.ip), (" and type=", queryVo.type),
    (" and \"name\" = ", queryVo.name)]

def queryMaxStatisticTopicProducerInfo (currentTimeMillis : Nat → Int) (queryVo : StatisticTopicProducerQueryVO)
    (intervalTime : Option Int) : String :=
  query currentTimeMillis
    "select max(value) as value,* from statistic_topic_producer_info where time >= {0} and time < {1}"
    [queryVo.beginTime, queryVo.endTime] (conditions queryVo)
    (" group by time(" ++ intervalText intervalTime ++ "ms)")

def queryLatestStatisticTopicProducerInfo (currentTimeMillis : Nat → Int)
    (queryVo : StatisticTopicProducerQueryVO) : String :=
  query currentTimeMillis "select * from statistic_topic_producer_info where time >= {0} and time < {1}"
    [queryVo.beginTime, queryVo.endTime] (conditions queryVo) " order by time desc limit 1"

def queryTopicProducerTagInfo (tagName clientName : String) : String :=
  format "show tag values from statistic_topic_producer_info with key={0} where clientName='{1}'"
    [tagName, clientName]

end StatisticTopicProducerRepository

namespace KafkaBrokerInfoRepository

def conditions (queryVo : KafkaBrokerInfoQueryVO) (brokerName : Option String) : List (String × Option String) :=
  [(" and attributeName=", queryVo.attributeName), (" and brokerName=", brokerName),
    (" and clusterName=", queryVo.clusterName), (" and \"name\" = ", queryVo.name)]

def queryMaxKafkaBrokerInfo (currentTimeMillis : Nat → Int) (queryVo : KafkaBrokerInfoQueryVO)
    (brokerName : Option String) (intervalTime : Option Int) : String :=
  query currentTimeMillis "select max(value) as value,* from kafka_broker_info where time >= {0} and time < {1}"
    [queryVo.beginTime, queryVo.endTime] (conditions queryVo brokerName)
    (" group by time(" ++ intervalText intervalTime ++ "ms)")

def queryLatestKafkaBrokerInfo (currentTimeMillis : Nat → Int) (queryVo : KafkaBrokerInfoQueryVO)
    (brokerName : Option String) : String :=
  query currentTimeMillis "select * from kafka_broker_info where time >= {0} and time < {1}"
    [queryVo.beginTime, queryVo.endTime] (conditions queryVo brokerName) " order by time desc limit 1"

def queryKafkaBrokerTagInfo (tagName clusterName : String) : String :=
  format "show tag values from kafka_broker_info with key={0} where clusterName='{1}'" [tagName, clusterName]

end KafkaBrokerInfoRepository

namespace TopicDailyOffsetsRepository

def getLastTopicMaxOffset (clusterName topicName : String) : String :=
  format ("select * from statistic_topic_daily_offsets_info" ++ " where \"clusterName\" = '{0}'" ++
    " and \"topicName\" = '{1}'" ++ " and \"name\" ='maxOffset'" ++ " order by time desc limit 1")
    [clusterName, topicName]

def queryTopicIncrementOffset (clusterName topicName : String) (beginTime endTime : Int) : String :=
  format ("select * from statistic_topic_daily_offsets_info" ++ " where  time >= {0}ms and time < {1}ms" ++
    " and \"clusterName\" = '{2}'" ++ " and \"topicName\" = '{3}'" ++ " and \"name\" ='incrementVal'")
    [toString beginTime, toString endTime, clusterName, topicName]

end TopicDailyOffsetsRepository

/-! ### What the requests mean -/

/-- A request, with the names it supplies. The controllers ask for the values of one tag each. -/
inductive Request where
  | queryMaxStatisticTopicProducerInfo (queryVo : StatisticTopicProducerQueryVO) (intervalTime : Option Int)
  | queryLatestStatisticTopicProducerInfo (queryVo : StatisticTopicProducerQueryVO)
  | queryTopicProducerTagInfo (clientName : String)
  | queryMaxKafkaBrokerInfo (queryVo : KafkaBrokerInfoQueryVO) (brokerName : Option String)
      (intervalTime : Option Int)
  | queryLatestKafkaBrokerInfo (queryVo : KafkaBrokerInfoQueryVO) (brokerName : Option String)
  | queryKafkaBrokerTagInfo (clusterName : String)
  | getLastTopicMaxOffset (clusterName topicName : String)
  | queryTopicIncrementOffset (clusterName topicName : String) (beginTime endTime : Int)

variable (currentTimeMillis : Nat → Int)

def Request.sql : Request → String
  | queryMaxStatisticTopicProducerInfo queryVo intervalTime =>
      StatisticTopicProducerRepository.queryMaxStatisticTopicProducerInfo currentTimeMillis queryVo intervalTime
  | queryLatestStatisticTopicProducerInfo queryVo =>
      StatisticTopicProducerRepository.queryLatestStatisticTopicProducerInfo currentTimeMillis queryVo
  | queryTopicProducerTagInfo clientName =>
      StatisticTopicProducerRepository.queryTopicProducerTagInfo "ip" clientName
  | queryMaxKafkaBrokerInfo queryVo brokerName intervalTime =>
      KafkaBrokerInfoRepository.queryMaxKafkaBrokerInfo currentTimeMillis queryVo brokerName intervalTime
  | queryLatestKafkaBrokerInfo queryVo brokerName =>
      KafkaBrokerInfoRepository.queryLatestKafkaBrokerInfo currentTimeMillis queryVo brokerName
  | queryKafkaBrokerTagInfo clusterName => KafkaBrokerInfoRepository.queryKafkaBrokerTagInfo "brokerName" clusterName
  | getLastTopicMaxOffset clusterName topicName =>
      TopicDailyOffsetsRepository.getLastTopicMaxOffset clusterName topicName
  | queryTopicIncrementOffset clusterName topicName beginTime endTime =>
      TopicDailyOffsetsRepository.queryTopicIncrementOffset clusterName topicName beginTime endTime

/-- String literals of InfluxQL. -/
def influxQL : Quoting Char where
  quote := '\''
  backslash := '\\'
  escape c := if c = 'n' then some '\n' else if c = '\\' ∨ c = '"' ∨ c = '\'' then some c else none
  apart := by decide
  escape_quote := by
    intro c escaped
    exact (Option.some.inj escaped).symm

def fixed (text : String) : Piece Char := .fixed text.toList

def literal (name : String) : Piece Char := .literal name.toList

def conditionPieces (start : String) : Option String → List (Piece Char)
  | some name => [fixed start, literal name]
  | none => []

def queryPieces (select : String) (beginTime endTime : Option Int) (conditions : List (String × Option String))
    (ending : String) : List (Piece Char) :=
  fixed (select ++ timeText (currentTimeMillis 0) beginTime ++ " and time < " ++
      timeText (currentTimeMillis 1) endTime) ::
    (conditions.flatMap (fun asked => conditionPieces asked.1 asked.2) ++ [fixed ending])

/-- Every name stands in a literal of its own. -/
def Request.pieces : Request → List (Piece Char)
  | queryMaxStatisticTopicProducerInfo queryVo intervalTime =>
      queryPieces currentTimeMillis
        "select max(value) as value,* from statistic_topic_producer_info where time >= "
        queryVo.beginTime queryVo.endTime (StatisticTopicProducerRepository.conditions queryVo)
        (" group by time(" ++ intervalText intervalTime ++ "ms)")
  | queryLatestStatisticTopicProducerInfo queryVo =>
      queryPieces currentTimeMillis "select * from statistic_topic_producer_info where time >= "
        queryVo.beginTime queryVo.endTime (StatisticTopicProducerRepository.conditions queryVo)
        " order by time desc limit 1"
  | queryTopicProducerTagInfo clientName =>
      [fixed "show tag values from statistic_topic_producer_info with key=ip where clientName=", literal clientName]
  | queryMaxKafkaBrokerInfo queryVo brokerName intervalTime =>
      queryPieces currentTimeMillis "select max(value) as value,* from kafka_broker_info where time >= "
        queryVo.beginTime queryVo.endTime (KafkaBrokerInfoRepository.conditions queryVo brokerName)
        (" group by time(" ++ intervalText intervalTime ++ "ms)")
  | queryLatestKafkaBrokerInfo queryVo brokerName =>
      queryPieces currentTimeMillis "select * from kafka_broker_info where time >= "
        queryVo.beginTime queryVo.endTime (KafkaBrokerInfoRepository.conditions queryVo brokerName)
        " order by time desc limit 1"
  | queryKafkaBrokerTagInfo clusterName =>
      [fixed "show tag values from kafka_broker_info with key=brokerName where clusterName=", literal clusterName]
  | getLastTopicMaxOffset clusterName topicName =>
      [fixed "select * from statistic_topic_daily_offsets_info where \"clusterName\" = ", literal clusterName,
        fixed " and \"topicName\" = ", literal topicName, fixed " and \"name\" =", literal "maxOffset",
        fixed " order by time desc limit 1"]
  | queryTopicIncrementOffset clusterName topicName beginTime endTime =>
      [fixed ("select * from statistic_topic_daily_offsets_info where  time >= " ++ toString beginTime ++
        "ms and time < " ++ toString endTime ++ "ms and \"clusterName\" = "), literal clusterName,
        fixed " and \"topicName\" = ", literal topicName, fixed " and \"name\" =", literal "incrementVal"]

def Request.names : Request → List String
  | queryMaxStatisticTopicProducerInfo queryVo _ | queryLatestStatisticTopicProducerInfo queryVo =>
      (StatisticTopicProducerRepository.conditions queryVo).filterMap (·.2)
  | queryTopicProducerTagInfo clientName => [clientName]
  | queryMaxKafkaBrokerInfo queryVo brokerName _ | queryLatestKafkaBrokerInfo queryVo brokerName =>
      (KafkaBrokerInfoRepository.conditions queryVo brokerName).filterMap (·.2)
  | queryKafkaBrokerTagInfo clusterName => [clusterName]
  | getLastTopicMaxOffset clusterName topicName => [clusterName, topicName]
  | queryTopicIncrementOffset clusterName topicName _ _ => [clusterName, topicName]

/-- The query is one statement, in which every name is the value of its own literal. -/
structure Inside (request : Request) : Prop where
  substituted : (request.sql currentTimeMillis).toList = render influxQL (request.pieces currentTimeMillis)
  read : influxQL.lex (request.sql currentTimeMillis).toList = some (tokens (request.pieces currentTimeMillis))
  one : .text ';' ∉ tokens (request.pieces currentTimeMillis)

/-- The name that is put in first does not ask for the one that follows it. -/
def Request.Apart : Request → Prop
  | getLastTopicMaxOffset clusterName topicName =>
      ¬ (placeholder 1).toList <:+: clusterName.toList ∨ topicName = placeholder 1
  | queryTopicIncrementOffset clusterName topicName _ _ =>
      ¬ (placeholder 3).toList <:+: clusterName.toList ∨ topicName = placeholder 3
  | _ => True

def Plain (request : Request) : Prop := (∀ name ∈ request.names, influxQL.Free name.toList) ∧ request.Apart

/-! ### What `format` puts in -/

theorem notMem_toString (n : Int) {c : Char} (digit : ¬ c.isDigit) (minus : c ≠ '-') : c ∉ (toString n).toList := by
  have digits (m : Nat) : c ∉ m.repr.toList := by
    rw [Nat.toList_repr]
    exact fun member => digit (Nat.isDigit_of_mem_toDigits (by decide) (by decide) member)
  cases n with
  | ofNat m => exact digits m
  | negSucc m =>
    change c ∉ ("-" ++ m.succ.repr).toList
    rw [String.toList_append, List.mem_append, not_or]
    exact ⟨fun member => minus (List.mem_singleton.mp member), digits _⟩

theorem toList_format (sql : String) (objects : List String) :
    (format sql objects).toList =
      objects.zipIdx.foldl (fun text object => replaceAll (placeholder object.2).toList object.1.toList text)
        sql.toList := by
  unfold format
  generalize objects.zipIdx = numbered
  induction numbered generalizing sql with
  | nil => rfl
  | cons object rest ih => rw [List.foldl_cons, List.foldl_cons, ih, replace, String.toList_ofList]

theorem toList_format_two (sql first second : String) :
    (format sql [first, second]).toList =
      replaceAll (placeholder 1).toList second.toList
        (replaceAll (placeholder 0).toList first.toList sql.toList) := toList_format sql [first, second]

theorem placeholder_shape (i : Nat) : (placeholder i).toList = '{' :: ((toString i).toList ++ ['}']) := by
  unfold placeholder
  rw [String.toList_append, String.toList_append]
  rfl

theorem placeholder_ne_nil (i : Nat) : (placeholder i).toList ≠ [] := by
  rw [placeholder_shape]
  exact List.cons_ne_nil _ _

theorem replaceAll_front {i : Nat} {object front : List Char} (rest : List Char) (brace : '{' ∉ front) :
    replaceAll (placeholder i).toList object (front ++ rest) =
      front ++ replaceAll (placeholder i).toList object rest :=
  replaceAll_append_of_notMem (placeholder_shape i) brace

theorem replaceAll_plain {i : Nat} {object text : List Char} (brace : '{' ∉ text) :
    replaceAll (placeholder i).toList object text = text := by
  have whole := @replaceAll_front i object text [] brace
  rwa [List.append_nil, show replaceAll (placeholder i).toList object [] = [] from rfl, List.append_nil] at whole

theorem placeholder_apart : ∀ i < 4, ∀ j < 4, i ≠ j → ¬ (placeholder i).toList <:+: (placeholder j).toList := by
  decide

theorem replaceAll_placeholder {i j : Nat} (i_few : i < 4) (j_few : j < 4) (apart : i ≠ j) (object : List Char) :
    replaceAll (placeholder i).toList object (placeholder j).toList = (placeholder j).toList :=
  replaceAll_eq_self (placeholder_apart i i_few j j_few apart)

theorem replaceAll_two {select between ending first second : List Char} (select_plain : '{' ∉ select)
    (first_plain : '{' ∉ first) (between_plain : '{' ∉ between) (ending_plain : '{' ∉ ending) :
    replaceAll (placeholder 1).toList second (replaceAll (placeholder 0).toList first
      (select ++ ((placeholder 0).toList ++ (between ++ ((placeholder 1).toList ++ ending))))) =
      select ++ (first ++ (between ++ (second ++ ending))) := by
  have other (rest : List Char) : replaceAll (placeholder 0).toList first ((placeholder 1).toList ++ rest) =
      (placeholder 1).toList ++ replaceAll (placeholder 0).toList first rest := rfl
  rw [replaceAll_front _ select_plain, replaceAll_target (placeholder_ne_nil 0), replaceAll_front _ between_plain,
    other, replaceAll_plain ending_plain, replaceAll_front _ select_plain, replaceAll_front _ first_plain,
    replaceAll_front _ between_plain, replaceAll_target (placeholder_ne_nil 1), replaceAll_plain ending_plain]

theorem toList_formatTimes {sql select : String} (shape : sql = select ++ "{0} and time < {1}")
    (select_plain : '{' ∉ select.toList) (beginTime endTime : Option Int) :
    (formatTimes currentTimeMillis sql [beginTime, endTime]).toList =
      (select ++ timeText (currentTimeMillis 0) beginTime ++ " and time < " ++
        timeText (currentTimeMillis 1) endTime).toList := by
  have template : sql.toList = select.toList ++ ((placeholder 0).toList ++
      (" and time < ".toList ++ ((placeholder 1).toList ++ []))) := by
    rw [shape, String.toList_append]
    rfl
  have texts : formatTimes currentTimeMillis sql [beginTime, endTime] =
      format sql [timeText (currentTimeMillis 0) beginTime, timeText (currentTimeMillis 1) endTime] := rfl
  have begin_plain : '{' ∉ (timeText (currentTimeMillis 0) beginTime).toList :=
    notMem_toString _ (by decide) (by decide)
  rw [texts, toList_format_two, template, replaceAll_two select_plain begin_plain (by decide) (by decide)]
  simp only [String.toList_append, List.append_assoc, List.append_nil]

/-! ### Each query -/

theorem toList_condition (start : String) (asked : Option String) :
    (condition start asked).toList = render influxQL (conditionPieces start asked) := by
  cases asked with
  | none => rfl
  | some name =>
    simp only [condition, conditionPieces, render, fixed, literal, String.toList_append, List.append_assoc]
    rfl

theorem toList_query {sql select : String} (shape : sql = select ++ "{0} and time < {1}")
    (select_plain : '{' ∉ select.toList) (beginTime endTime : Option Int)
    (conditions : List (String × Option String)) (ending : String) :
    (query currentTimeMillis sql [beginTime, endTime] conditions ending).toList =
      render influxQL (queryPieces currentTimeMillis select beginTime endTime conditions ending) := by
  have asked : (conditions.foldr (fun asked rest => condition asked.1 asked.2 ++ rest) ending).toList =
      render influxQL (conditions.flatMap (fun asked => conditionPieces asked.1 asked.2) ++ [fixed ending]) := by
    induction conditions with
    | nil => simp [render, fixed]
    | cons asked rest ih =>
      rw [List.foldr_cons, String.toList_append, toList_condition, ih, List.flatMap_cons, List.append_assoc,
        ← render_append]
  rw [query, String.toList_append, toList_formatTimes currentTimeMillis shape select_plain, asked]
  rfl

theorem getLastTopicMaxOffset_substituted_iff (clusterName topicName : String) :
    (TopicDailyOffsetsRepository.getLastTopicMaxOffset clusterName topicName).toList =
        render influxQL ((Request.getLastTopicMaxOffset clusterName topicName).pieces currentTimeMillis) ↔
      (Request.getLastTopicMaxOffset clusterName topicName).Apart := by
  have template : ("select * from statistic_topic_daily_offsets_info" ++ " where \"clusterName\" = '{0}'" ++
      " and \"topicName\" = '{1}'" ++ " and \"name\" ='maxOffset'" ++ " order by time desc limit 1").toList =
      render influxQL [fixed "select * from statistic_topic_daily_offsets_info where \"clusterName\" = ",
        literal (placeholder 0), fixed " and \"topicName\" = ", literal (placeholder 1), fixed " and \"name\" =",
        literal "maxOffset", fixed " order by time desc limit 1"] := by decide +kernel
  rw [TopicDailyOffsetsRepository.getLastTopicMaxOffset, toList_format_two, template,
    replaceAll_render (placeholder_ne_nil 0) (by decide) (by simp [Piece.Alternate, fixed, literal]),
    replaceAll_render (placeholder_ne_nil 1) (by decide) (by simp [Piece.Alternate, Piece.replaceAll, fixed, literal])]
  simp (disch := decide) only [List.map_cons, List.map_nil, Piece.replaceAll, fixed, literal, replaceAll_plain,
    replaceAll_placeholder, replaceAll_itself, Request.pieces, Request.Apart, render, List.append_cancel_left_eq, List.cons.injEq, true_and,
    List.append_cancel_right_eq]
  rw [replaceAll_eq_self_iff (placeholder_ne_nil 1), String.toList_inj]

theorem queryTopicIncrementOffset_substituted_iff (clusterName topicName : String) (beginTime endTime : Int) :
    (TopicDailyOffsetsRepository.queryTopicIncrementOffset clusterName topicName beginTime endTime).toList =
        render influxQL
          ((Request.queryTopicIncrementOffset clusterName topicName beginTime endTime).pieces currentTimeMillis) ↔
      (Request.queryTopicIncrementOffset clusterName topicName beginTime endTime).Apart := by
  have template : ("select * from statistic_topic_daily_offsets_info" ++ " where  time >= {0}ms and time < {1}ms" ++
      " and \"clusterName\" = '{2}'" ++ " and \"topicName\" = '{3}'" ++ " and \"name\" ='incrementVal'").toList =
      render influxQL [.fixed ("select * from statistic_topic_daily_offsets_info where  time >= ".toList ++
          ((placeholder 0).toList ++ ("ms and time < ".toList ++
            ((placeholder 1).toList ++ "ms and \"clusterName\" = ".toList)))),
        literal (placeholder 2), fixed " and \"topicName\" = ", literal (placeholder 3), fixed " and \"name\" =",
        literal "incrementVal"] := by decide +kernel
  have begin_plain : '{' ∉ (toString beginTime).toList := notMem_toString _ (by decide) (by decide)
  have end_plain : '{' ∉ (toString endTime).toList := notMem_toString _ (by decide) (by decide)
  have times_plain : '{' ∉ "select * from statistic_topic_daily_offsets_info where  time >= ".toList ++
      ((toString beginTime).toList ++ ("ms and time < ".toList ++
        ((toString endTime).toList ++ "ms and \"clusterName\" = ".toList))) := by
    simp only [List.mem_append, begin_plain, end_plain, false_or]
    decide
  rw [TopicDailyOffsetsRepository.queryTopicIncrementOffset, toList_format, template]
  simp only [List.zipIdx, List.foldl_cons, List.foldl_nil]
  rw [replaceAll_render (placeholder_ne_nil 0) (by decide) (by simp [Piece.Alternate, fixed, literal]),
    replaceAll_render (placeholder_ne_nil 1) (by decide) (by simp [Piece.Alternate, Piece.replaceAll, fixed, literal]),
    replaceAll_render (placeholder_ne_nil 2) (by decide) (by simp [Piece.Alternate, Piece.replaceAll, fixed, literal]),
    replaceAll_render (placeholder_ne_nil 3) (by decide) (by simp [Piece.Alternate, Piece.replaceAll, fixed, literal])]
  simp only [List.map_cons, List.map_nil, Piece.replaceAll, fixed, literal]
  rw [replaceAll_two (by decide) begin_plain (by decide) (by decide), replaceAll_plain times_plain,
    replaceAll_plain times_plain]
  simp (disch := decide) only [replaceAll_plain, replaceAll_placeholder, replaceAll_itself, Request.pieces,
    Request.Apart, render, fixed, literal, String.toList_append, List.append_assoc, List.append_cancel_left_eq,
    List.cons.injEq, true_and, List.append_cancel_right_eq]
  rw [replaceAll_eq_self_iff (placeholder_ne_nil 3), String.toList_inj]

theorem literals_of_queryPieces (select : String) (beginTime endTime : Option Int)
    (conditions : List (String × Option String)) (ending : String) (value : List Char) :
    .literal value ∈ queryPieces currentTimeMillis select beginTime endTime conditions ending ↔
      ∃ name ∈ conditions.filterMap (·.2), value = name.toList := by
  have asked (start : String) (name : Option String) :
      .literal value ∈ conditionPieces start name ↔ ∃ given, name = some given ∧ value = given.toList := by
    cases name <;> simp [conditionPieces, fixed, literal]
  simp only [queryPieces, fixed, List.mem_cons, reduceCtorEq, false_or, List.mem_append, List.mem_flatMap, asked,
    List.not_mem_nil, or_false, List.mem_filterMap]
  grind

theorem queryTopicProducerTagInfo_substituted (clientName : String) :
    (StatisticTopicProducerRepository.queryTopicProducerTagInfo "ip" clientName).toList =
      render influxQL ((Request.queryTopicProducerTagInfo clientName).pieces currentTimeMillis) := by
  have tagged : replaceAll (placeholder 0).toList "ip".toList
      "show tag values from statistic_topic_producer_info with key={0} where clientName='{1}'".toList =
      render influxQL [fixed "show tag values from statistic_topic_producer_info with key=ip where clientName=",
        literal (placeholder 1)] := by decide +kernel
  rw [StatisticTopicProducerRepository.queryTopicProducerTagInfo, toList_format_two, tagged,
    replaceAll_render (placeholder_ne_nil 1) (by decide) (by simp [Piece.Alternate, fixed, literal])]
  simp (disch := decide) only [List.map_cons, List.map_nil, Piece.replaceAll, fixed, literal, replaceAll_plain,
    replaceAll_itself, Request.pieces]

theorem queryKafkaBrokerTagInfo_substituted (clusterName : String) :
    (KafkaBrokerInfoRepository.queryKafkaBrokerTagInfo "brokerName" clusterName).toList =
      render influxQL ((Request.queryKafkaBrokerTagInfo clusterName).pieces currentTimeMillis) := by
  have tagged : replaceAll (placeholder 0).toList "brokerName".toList
      "show tag values from kafka_broker_info with key={0} where clusterName='{1}'".toList =
      render influxQL [fixed "show tag values from kafka_broker_info with key=brokerName where clusterName=",
        literal (placeholder 1)] := by decide +kernel
  rw [KafkaBrokerInfoRepository.queryKafkaBrokerTagInfo, toList_format_two, tagged,
    replaceAll_render (placeholder_ne_nil 1) (by decide) (by simp [Piece.Alternate, fixed, literal])]
  simp (disch := decide) only [List.map_cons, List.map_nil, Piece.replaceAll, fixed, literal, replaceAll_plain,
    replaceAll_itself, Request.pieces]

theorem substituted_iff (request : Request) :
    (request.sql currentTimeMillis).toList = render influxQL (request.pieces currentTimeMillis) ↔ request.Apart := by
  cases request with
  | queryMaxStatisticTopicProducerInfo queryVo intervalTime =>
    exact iff_of_true (toList_query currentTimeMillis (by decide) (by decide) _ _ _ _) trivial
  | queryLatestStatisticTopicProducerInfo queryVo =>
    exact iff_of_true (toList_query currentTimeMillis (by decide) (by decide) _ _ _ _) trivial
  | queryTopicProducerTagInfo clientName =>
    exact iff_of_true (queryTopicProducerTagInfo_substituted currentTimeMillis clientName) trivial
  | queryMaxKafkaBrokerInfo queryVo brokerName intervalTime =>
    exact iff_of_true (toList_query currentTimeMillis (by decide) (by decide) _ _ _ _) trivial
  | queryLatestKafkaBrokerInfo queryVo brokerName =>
    exact iff_of_true (toList_query currentTimeMillis (by decide) (by decide) _ _ _ _) trivial
  | queryKafkaBrokerTagInfo clusterName =>
    exact iff_of_true (queryKafkaBrokerTagInfo_substituted currentTimeMillis clusterName) trivial
  | getLastTopicMaxOffset clusterName topicName =>
    exact getLastTopicMaxOffset_substituted_iff currentTimeMillis clusterName topicName
  | queryTopicIncrementOffset clusterName topicName beginTime endTime =>
    exact queryTopicIncrementOffset_substituted_iff currentTimeMillis clusterName topicName beginTime endTime

/-! ### What stands between the literals -/

/-- A text that neither opens a literal nor ends the statement. -/
def Clause (text : List Char) : Prop := '\'' ∉ text ∧ ';' ∉ text

instance (text : List Char) : Decidable (Clause text) := inferInstanceAs (Decidable (_ ∧ _))

theorem clause_append {text rest : List Char} : Clause (text ++ rest) ↔ Clause text ∧ Clause rest := by
  simp only [Clause, List.mem_append, not_or]
  tauto

theorem clause_toString (n : Int) : Clause (toString n).toList :=
  ⟨notMem_toString n (by decide) (by decide), notMem_toString n (by decide) (by decide)⟩

theorem clause_intervalText (intervalTime : Option Int) : Clause (intervalText intervalTime).toList := by
  cases intervalTime with
  | none => decide
  | some time => exact clause_toString time

theorem clause_interval (intervalTime : Option Int) :
    Clause (" group by time(" ++ intervalText intervalTime ++ "ms)").toList := by
  rw [String.toList_append, String.toList_append, clause_append, clause_append]
  exact ⟨⟨by decide, clause_intervalText intervalTime⟩, by decide⟩

theorem clause_of_queryPieces {select ending : String} {conditions : List (String × Option String)}
    (select_clause : Clause select.toList) (starts : ∀ asked ∈ conditions, Clause asked.1.toList)
    (ending_clause : Clause ending.toList) (beginTime endTime : Option Int) {text : List Char}
    (member : .fixed text ∈ queryPieces currentTimeMillis select beginTime endTime conditions ending) :
    Clause text := by
  rcases List.mem_cons.mp member with first | later
  · obtain rfl := Piece.fixed.inj first
    simp only [String.toList_append, clause_append]
    exact ⟨⟨⟨select_clause, clause_toString _⟩, by decide⟩, clause_toString _⟩
  · rcases List.mem_append.mp later with asked | last
    · obtain ⟨⟨start, name⟩, asked, member⟩ := List.mem_flatMap.mp asked
      cases name with
      | none => cases member
      | some name =>
        have own : text = start.toList := by simpa [conditionPieces, fixed, literal] using member
        exact own ▸ starts _ asked
    · obtain rfl := Piece.fixed.inj (List.mem_singleton.mp last)
      exact ending_clause

theorem clause_of_pieces (request : Request) {text : List Char}
    (member : .fixed text ∈ request.pieces currentTimeMillis) : Clause text := by
  have producer (queryVo : StatisticTopicProducerQueryVO) :
      ∀ asked ∈ StatisticTopicProducerRepository.conditions queryVo, Clause asked.1.toList := by
    simp only [StatisticTopicProducerRepository.conditions, List.forall_mem_cons]
    exact ⟨by decide, by decide, by decide, by decide, fun _ member => absurd member List.not_mem_nil⟩
  have broker (queryVo : KafkaBrokerInfoQueryVO) (brokerName : Option String) :
      ∀ asked ∈ KafkaBrokerInfoRepository.conditions queryVo brokerName, Clause asked.1.toList := by
    simp only [KafkaBrokerInfoRepository.conditions, List.forall_mem_cons]
    exact ⟨by decide, by decide, by decide, by decide, fun _ member => absurd member List.not_mem_nil⟩
  cases request with
  | queryMaxStatisticTopicProducerInfo queryVo intervalTime =>
    exact clause_of_queryPieces currentTimeMillis (by decide) (producer queryVo) (clause_interval _) _ _ member
  | queryLatestStatisticTopicProducerInfo queryVo =>
    exact clause_of_queryPieces currentTimeMillis (by decide) (producer queryVo) (by decide) _ _ member
  | queryTopicProducerTagInfo clientName =>
    simp only [Request.pieces, fixed, literal, List.mem_cons, Piece.fixed.injEq, reduceCtorEq, List.not_mem_nil,
      or_false] at member
    exact member ▸ by decide
  | queryMaxKafkaBrokerInfo queryVo brokerName intervalTime =>
    exact clause_of_queryPieces currentTimeMillis (by decide) (broker queryVo brokerName) (clause_interval _) _ _ member
  | queryLatestKafkaBrokerInfo queryVo brokerName =>
    exact clause_of_queryPieces currentTimeMillis (by decide) (broker queryVo brokerName) (by decide) _ _ member
  | queryKafkaBrokerTagInfo clusterName =>
    simp only [Request.pieces, fixed, literal, List.mem_cons, Piece.fixed.injEq, reduceCtorEq, List.not_mem_nil,
      or_false] at member
    exact member ▸ by decide
  | getLastTopicMaxOffset clusterName topicName =>
    simp only [Request.pieces, fixed, literal, List.mem_cons, Piece.fixed.injEq, reduceCtorEq, List.not_mem_nil,
      or_false, false_or] at member
    rcases member with rfl | rfl | rfl | rfl <;> decide
  | queryTopicIncrementOffset clusterName topicName beginTime endTime =>
    simp only [Request.pieces, fixed, literal, List.mem_cons, Piece.fixed.injEq, reduceCtorEq, List.not_mem_nil,
      or_false, false_or] at member
    rcases member with rfl | rfl | rfl
    · simp only [String.toList_append, clause_append]
      exact ⟨⟨⟨⟨by decide, clause_toString _⟩, by decide⟩, clause_toString _⟩, by decide⟩
    · decide
    · decide

theorem free_pieces_iff (request : Request) :
    (∀ value, .literal value ∈ request.pieces currentTimeMillis → influxQL.Free value) ↔
      ∀ name ∈ request.names, influxQL.Free name.toList := by
  have maxOffset : influxQL.Free "maxOffset".toList := ⟨by decide, by decide⟩
  have incrementVal : influxQL.Free "incrementVal".toList := ⟨by decide, by decide⟩
  cases request with
  | queryMaxStatisticTopicProducerInfo | queryLatestStatisticTopicProducerInfo
  | queryMaxKafkaBrokerInfo | queryLatestKafkaBrokerInfo =>
    simp only [Request.pieces, literals_of_queryPieces, Request.names]
    constructor
    · exact fun free name member => free name.toList ⟨name, member, rfl⟩
    · rintro free value ⟨name, member, rfl⟩
      exact free name member
  | queryTopicProducerTagInfo | queryKafkaBrokerTagInfo =>
    simp [Request.pieces, Request.names, fixed, literal]
  | getLastTopicMaxOffset | queryTopicIncrementOffset =>
    simp only [Request.pieces, Request.names, fixed, literal, List.mem_cons, reduceCtorEq, Piece.literal.injEq,
      List.not_mem_nil, or_false, false_or, forall_eq_or_imp, forall_eq, maxOffset, incrementVal, and_true]

/-! ### Names inside their literals -/

/-- The names stay inside their literals if and only if none has a quote or a backslash, and none
asks for the next. -/
theorem inside_iff (request : Request) : Inside currentTimeMillis request ↔ Plain request := by
  have quotes (text : List Char) (member : .fixed text ∈ request.pieces currentTimeMillis) : '\'' ∉ text :=
    (clause_of_pieces currentTimeMillis request member).1
  have one : .text ';' ∉ tokens (request.pieces currentTimeMillis) := by
    rw [mem_tokens_iff]
    rintro ⟨text, member, ends⟩
    exact (clause_of_pieces currentTimeMillis request member).2 ends
  have free := (lex_render_iff (q := influxQL) quotes).trans (free_pieces_iff currentTimeMillis request)
  constructor
  · rintro ⟨substituted, read, -⟩
    rw [substituted] at read
    exact ⟨free.mp read, (substituted_iff currentTimeMillis request).mp substituted⟩
  · rintro ⟨names, apart⟩
    have substituted := (substituted_iff currentTimeMillis request).mpr apart
    refine ⟨substituted, ?_, one⟩
    rw [substituted]
    exact free.mpr names

/-- A client name that ends its literal asks for the values of all clients. -/
theorem not_inside : ¬ ∀ (currentTimeMillis : Nat → Int) (request : Request), Inside currentTimeMillis request := by
  intro inside
  have read := (inside (fun _ => 0) (.queryTopicProducerTagInfo "x' or 'a'='a")).read
  have lengths := congrArg (Option.map List.length) read
  revert lengths
  decide +kernel

end Zms.Service.InfluxQueries
