import Mockly.Redis.Refinement
import Mockly.Redis.Occupied
import Mockly.HTTPServer.Listeners
import Mockly.HTTPServer.Exactness
import Mockly.HTTPServer.Replay
import Mockly.Logger.Delivery
import Mockly.SNMP.Restart
import Mockly.Confinement
import Mockly.WebSocket.Dispatch
import Mockly.Watch.Reload
import Mockly.Streams.Schedule
import Mockly.Streams.Closing
import Mockly.GraphQL.Subscriptions
import Mockly.Brokers.Echo
import Mockly.SNMP.Replay
import Mockly.LDAP.Panics
import Mockly.AMQP.Consumers
import Mockly.Kafka.Bounds
import Mockly.Kafka.Fetch
import Mockly.Kafka.Produce
import Mockly.Memcached.Framing
import Mockly.IMAP.Panics
import Mockly.LDAP.Entries
import Mockly.STOMP.Subscriptions
import Mockly.CoAP.Packets
import Mockly.API.Pages
import Mockly.Config.Load
import Mockly.Scenarios.RateLimit
import Mockly.Engine.Globs
import Mockly.Engine.JSONPaths
import Mockly.Brokers.Subjects
import Mockly.Retention
import Mockly.HTTPServer.Events
import Mockly.HTTPServer.RawResponse
import Mockly.FTP.Listing
import Mockly.TLS.Listeners
import Mockly.HTTPServer.Sequences
import Mockly.Streams.Bidi
import Mockly.Redis.Numbers
import Mockly.Engine.Random
import Mockly.AMQP.Topics
import Mockly.Brokers.Topics
import Mockly.Config.Duplicates
import Mockly.Config.BodyPaths
import Mockly.Config.Vars
import Mockly.Engine.XML
import Mockly.HTTPServer.NTLM
import Mockly.HTTPServer.Forward
import Mockly.AsyncAPI.Inline
import Mockly.Config.BodyYAML
import Mockly.SNMP.Set
import Mockly.SMTP.Server
import Mockly.Generate.Slugs
