import PersonalFeed.Deployment
import PersonalFeed.Proofs.Centroids
import PersonalFeed.Proofs.Coherence.Footprints
import PersonalFeed.Proofs.Coherence.Runs
import PersonalFeed.Proofs.Coherence.Scans
import PersonalFeed.Proofs.Entries.Answers
import PersonalFeed.Proofs.Entries.ReadBack
import PersonalFeed.Proofs.Exposure.Overtaking
import PersonalFeed.Proofs.Losses.Recovery
import PersonalFeed.Proofs.Messages
import PersonalFeed.Proofs.Nearest
import PersonalFeed.Proofs.Pages.Malformed
import PersonalFeed.Proofs.Pages.Neighbours
import PersonalFeed.Proofs.Pages.Signals
import PersonalFeed.Proofs.Ranking.Fewer
import PersonalFeed.Proofs.Ranking.Raised
import PersonalFeed.Proofs.Ranking.Ranges
import PersonalFeed.Proofs.Ranking.Sorted
import PersonalFeed.Proofs.Seen.Decay
import PersonalFeed.Proofs.Seen.Impressions
import PersonalFeed.Proofs.Seen.Reports
import PersonalFeed.Proofs.Seen.Retention
import PersonalFeed.Proofs.Tags
