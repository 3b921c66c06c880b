import Pulsar.Result
import Pulsar.RulesEngine.Rule
import Pulsar.RulesEngine.Load
import Pulsar.RulesEngine.ParseRules
import Pulsar.RulesEngine.Engine
import Pulsar.NetworkMonitor.Addr
import Pulsar.NetworkMonitor.Event
import Pulsar.NetworkMonitor.Dns
