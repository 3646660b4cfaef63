import Switchboard.Main
import Switchboard.Presence.Tracker
import Switchboard.Simulation.Run
import Switchboard.Timer.Clocked
import Switchboard.Proofs.Ledger
import Switchboard.Proofs.Record
import Switchboard.Proofs.Moves
import Switchboard.Proofs.Sending
import Switchboard.Proofs.Dispatch
import Switchboard.Proofs.Connection
import Switchboard.Proofs.Operations
import Switchboard.Proofs.Commands
import Switchboard.Proofs.Runs
import Switchboard.Proofs.Scripts
import Switchboard.Proofs.Waiting
import Switchboard.Proofs.Intact
import Switchboard.Proofs.Unhooked
import Switchboard.Proofs.OneLive
import Switchboard.Proofs.Dormant
import Switchboard.Proofs.Link
import Switchboard.Proofs.Fates
import Switchboard.Proofs.Stable
import Switchboard.Proofs.Resolving
import Switchboard.Proofs.Listening
import Switchboard.Proofs.Replies
import Switchboard.Proofs.Shifts
import Switchboard.Proofs.Disconnect
import Switchboard.Proofs.Teardowns
import Switchboard.Proofs.Joined
import Switchboard.Proofs.Trying
import Switchboard.Proofs.Heralds
import Switchboard.Proofs.Tending
import Switchboard.Proofs.Unwedged
import Switchboard.Proofs.Strokes
import Switchboard.Proofs.Watched
import Switchboard.Proofs.Courses
import Switchboard.Proofs.Foreign
import Switchboard.Proofs.Errands
import Switchboard.Proofs.Callers
import Switchboard.Proofs.Attached
import Switchboard.Proofs.Beats
import Switchboard.Proofs.Epochs
import Switchboard.Proofs.Frames
import Switchboard.Proofs.Chores
import Switchboard.Proofs.Postage
import Switchboard.Proofs.Mail
import Switchboard.Proofs.Tokens
import Switchboard.Proofs.TextFrames
import Switchboard.Proofs.PresenceEpochs
import Switchboard.Proofs.Roster
import Switchboard.Proofs.Asides
import Switchboard.Proofs.Replica
import Switchboard.Proofs.Notices
import Switchboard.Proofs.Polling
import Switchboard.Proofs.Holdings
import Switchboard.Proofs.Custody
import Switchboard.Proofs.Requests
import Switchboard.Proofs.Heartbeats
import Switchboard.Proofs.Connections
import Switchboard.Proofs.Snapshots
import Switchboard.Proofs.ListedOnce
import Switchboard.Proofs.Traffic
import Switchboard.Proofs.Failing
import Switchboard.Proofs.LateReplies
import Switchboard.Proofs.Cascade
import Switchboard.Proofs.Severed
import Switchboard.Proofs.Toils
import Switchboard.Proofs.Efforts
import Switchboard.Proofs.Attempts
import Switchboard.Proofs.Superseded
import Switchboard.Proofs.Vigils
import Switchboard.Proofs.Admissions
import Switchboard.Proofs.Backlog
import Switchboard.Proofs.Nesting
import Switchboard.Proofs.Registrations
import Switchboard.Proofs.Announcements
import Switchboard.Proofs.Unasked
import Switchboard.Proofs.Reconnects
import Switchboard.Proofs.Farewells
import Switchboard.Proofs.Partings
import Switchboard.Proofs.Answers
import Switchboard.Proofs.Reserved
import Switchboard.Proofs.Overrides
import Switchboard.Proofs.Retaining
import Switchboard.Proofs.Pings
import Switchboard.Proofs.Sessions
import Switchboard.Proofs.FailedPolls
import Switchboard.Proofs.Queries
import Switchboard.Proofs.Addresses
import Switchboard.Proofs.Routines
import Switchboard.Proofs.Evaluations
import Switchboard.Proofs.Destinations
import Switchboard.Proofs.ClientPushes
import Switchboard.Proofs.Visits
import Switchboard.Proofs.Generations
import Switchboard.Proofs.Outstanding
