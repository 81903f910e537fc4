import Dfs.Basic
import Dfs.Checksum
import Dfs.Bitmap
import Dfs.History
import Dfs.BlockManager.Basic
import Dfs.BlockManager.Spec
import Dfs.BlockManager.Allocation
import Dfs.BlockManager.AllocateBlocks
import Dfs.BlockManager.Defragment
import Dfs.BlockManager.DataBlock
import Dfs.Inode.Basic
import Dfs.Inode.Layout
import Dfs.Inode.Spec
import Dfs.Inode.Allocation
import Dfs.Inode.Metadata
import Dfs.Transaction.LogEntry
import Dfs.Transaction.Manager
import Dfs.Transaction.Spec
import Dfs.Transaction.Lifecycle
import Dfs.Transaction.Refinement
import Dfs.Transaction.Guard
import Dfs.Transaction.Wal
import Dfs.SuperBlock
import Dfs.Persistence
import Dfs.RateLimiter.SlidingWindow
import Dfs.RateLimiter.TokenBucket
import Dfs.RateLimiter.Clients
import Dfs.RateLimiter.Throughput
import Dfs.Retry.Classify
import Dfs.Retry.Handler
import Dfs.Retry.Manager
import Dfs.Retry.Pointers
import Dfs.ThreadPool
import Dfs.Logger
