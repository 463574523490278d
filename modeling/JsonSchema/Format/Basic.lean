/-
  JsonSchema.Format — the named formats of strings.

  Some names share their rule: a host name is any reference, and both families of addresses
  are taken under either name.
-/

import JsonSchema.Format.Address
import JsonSchema.Format.Calendar
import JsonSchema.Format.Duration
import JsonSchema.Format.Email
import JsonSchema.Format.Url
import JsonSchema.Format.Uuid
import JsonSchema.Pattern.Basic

namespace JsonSchema

inductive Format where
  | dateTime
  | date
  | time
  | duration
  | regex
  | email
  | hostname
  | uri
  | ipv4
  | ipv6
  | uuid
  deriving DecidableEq

namespace Format

def all : List Format :=
  [.dateTime, .date, .time, .duration, .regex, .email, .hostname, .uri, .ipv4, .ipv6, .uuid]

def name : Format → String
  | dateTime => "date-time"
  | date => "date"
  | time => "time"
  | duration => "duration"
  | regex => "regex"
  | email => "email"
  | hostname => "hostname"
  | uri => "uri"
  | ipv4 => "ipv4"
  | ipv6 => "ipv6"
  | uuid => "uuid"

def ofName? (name : String) : Option Format := all.find? (·.name == name)

def accepts (f : Format) (text : String) : Bool :=
  match f with
  | dateTime => Calendar.isInstant text
  | date => Calendar.isDate text
  | time => Calendar.isTime text
  | duration => Duration.isDuration text
  | regex => (Pattern.compile text).isOk
  | email => Email.isEmail text
  | hostname => Url.isReference text
  | uri => Url.isReference text
  | ipv4 => Address.isAddress text
  | ipv6 => Address.isAddress text
  | uuid => Uuid.isUuid text

end Format

end JsonSchema
