import PortMapper.Mapper.Event
import PortMapper.Neighbours.Report
import PortMapper.Neighbours.Change
import PortMapper.Settings.Document
import PortMapper.Settings.Storage
import PortMapper.Session.Network
import PortMapper.Service
import PortMapper.Main
import PortMapper.Proofs.Directory.NameMap
import PortMapper.Proofs.Directory.Ordered
import PortMapper.Proofs.Directory.Refinement
import PortMapper.Proofs.Host.Network
import PortMapper.Proofs.Host.Counting
import PortMapper.Proofs.Sweep
import PortMapper.Proofs.Request.Codec
import PortMapper.Proofs.Request.Canonical
import PortMapper.Proofs.Mapper.Naming
import PortMapper.Proofs.Mapper.LiveHolder
import PortMapper.Proofs.Mapper.LocalClients
import PortMapper.Proofs.Mapper.Isolation
import PortMapper.Proofs.Mapper.Provoked
import PortMapper.Proofs.Exchange
import PortMapper.Proofs.Neighbours.Gathering
import PortMapper.Proofs.Neighbours.Sound
import PortMapper.Proofs.Neighbours.Merging
import PortMapper.Proofs.Neighbours.Repeats
import PortMapper.Proofs.Neighbours.Report
import PortMapper.Proofs.Outbox
import PortMapper.Proofs.Outbox.History
import PortMapper.Proofs.Outbox.Flushing
import PortMapper.Proofs.Text.Blank
import PortMapper.Proofs.Decimal
import PortMapper.Proofs.Address.Dotted
import PortMapper.Proofs.Mapper.Hearing
import PortMapper.Proofs.Mapper.Sweeping
import PortMapper.Proofs.Mapper.Silence
import PortMapper.Proofs.Mapper.Listed
import PortMapper.Proofs.Mapper.Answering
import PortMapper.Proofs.Mapper.Asking
import PortMapper.Proofs.Mapper.Introduction
import PortMapper.Proofs.Reply.Codec
import PortMapper.Proofs.Reply.Truncated
import PortMapper.Proofs.Session
import PortMapper.Proofs.Client.Calls
import PortMapper.Proofs.Client.Limits
import PortMapper.Proofs.Client.Search
import PortMapper.Proofs.Client.Replies
import PortMapper.Proofs.Service.History
import PortMapper.Proofs.Service.Connections
import PortMapper.Proofs.Service.Linearizable
import PortMapper.Proofs.Settings.Environment
import PortMapper.Proofs.CommandLine.Options
import PortMapper.Proofs.Settings.Storage
