import CriticalCss.Text.Packed
/-!
# ASCII spellings of the alphabets

The ASCII spelling of each character outside ASCII, the Han characters and
the Hangul syllables, whose spellings follow rules of their own. Letters
with marks lose them, letters of the other alphabets and syllabaries are
spelled by a common romanisation (the consonants of the Indic scripts
without their inherent vowel), and symbols by a short ASCII picture.
Characters of a block without a spelling of their own are spelled by the
empty text, as are all the characters outside the blocks.

Each block holds the spellings of consecutive characters, starting from the
character whose code point it names, separated by `·`. No spelling holds a
`·`, since every spelling is ASCII. The spellings are stored packed
(`CriticalCss.Text.unpack`) and range coded together (`CriticalCss.Text.unrange`).

## Main definitions

* `spellingBlocks`: the blocks of spellings.
* `blockSpelling`: the spelling of a character in the blocks.
-/

namespace CriticalCss.Text

/-- Spellings of consecutive characters, from the character with code point
`first` on, separated by `·`. -/
structure SpellingBlock where
  first : Nat
  spellings : String

/-- The code points the blocks start at, in increasing order. -/
def blockStarts : List Nat := [
  0x00a0, 0x0363, 0x0531, 0x05b0, 0x0780, 0x0900, 0x0e81, 0x0f00, 0x0f20, 0x1000, 0x10a0, 0x1161,
  0x11a8, 0x1200, 0x13a0, 0x166f, 0x1780, 0x1810, 0x1e00, 0x2070, 0x2102, 0x2153, 0x2212, 0x2260,
  0x22d8, 0x2460, 0x3000, 0xa000, 0xfb00, 0xff01]

/-- The packed spellings of the blocks one after another, separated by `\x1e`, with `\x7f` for
each `·` between two spellings, range coded. -/
def blockTexts : String :=
  unrange 15107 (String.join [
    "82tZ*;>zhI63Sah::T&FJVn[_sIY!!TSgUg8T&3Ea1ew/U4/:;KVig'?W+IZUa&u*_!zbeN1JaiN4MF:m>dbKebqo.([&Mp)HUNJqbEc=oxBgx2'#^v`Z|D>DAC(Qqt^P#bcD]>]LLU(A8Hzd;C/$qhBI=;<zf5R-Tkz4:ocyR?T)H4e;!-<n,@hYf$[B@ k]uS15 w1a:NC@a+f<E;n$D^`s`N<xGv3'9HTJpJ)sP</<3[D[vmLrEsjEI;#Stj>UG#|'<vDdI)UOqAAdcFF*^h_C'G_hK/cG'bEU=MrD9j|ynCBEn$v9;%^BKHMzWu+<r/a`wz&V&#GP)(RPo!H_-5<ZSTXh9+3W1Y%4>YT5 J@dw IPaMHcPDe&omEG@L,'JBt[%Ikg:kZ)d;;50egQUGnTOBC.H#9px9p@PQ_Cj9[7F?I%gdw6`*2ab'33D'<z#jGB-c[PN=TK%I.1vzp_ICcbv0[]3yAyTw`P]VXsQux8azpsugy9qu6S^sGbecpm a!FiR#s3K3w`# %u<:UMEtwE(fdjr$4h'hk?C#x61%,Zxxw_.Yl-)x$!Gee&MH9P5@*GJZQbIUgsNv]AO;IPX0TaI|<Y^%n&U+Dp^/|Vtds4>Qhu>/Z;_>K]UNNV55$Nl,^pcR+&@GE?[KP|iLmxORiH`k=]&KF*CG=L>7@:)]@p*Gi8s3a68k2haz,%_PZzoN?(aZ:6Zs`/XF4MlCvm<c5S$zpQ'@7y^`7EyGfouho:CyBnA0j`F`=-t=%[R1Lu`rn-/<d@,cw3*30M('9fGnFwE5ZE-eX7VTaU/PG|cSfw_j:&GlytHxQCY.C%R%d/t]s?ZEm/zddQVv+Ly$$Aze>%-]J6x!bGK:q:9*NzTLs1`/OM@U-yhCmuXA9 3|Pfco9'vY]|#cZ4bY]h%A/mJAok7?`tYq,PXMCNSyxg=Z&e6giKaei1U,gqE@G?%FCLL-7lZwIN`5rMC+,$lI?%a6K:_Qa6@8yi8j3)Kc",
    "fn)l5Dx(-X:[,hcome,q5,/&d:pV53:RKgP`AO<|/Ttg4iTv_9%K156|MmEXtDF#!%s9k.AcvOyDSP5dV)qGJQi;^G)b2!OA,$bh,uGQ$uR^V&0l^gEtqPIQrxt(.Z&*b5c!W=Ad'ZI^?9>JuItj_R8_??a%p0@wnZaK71?+oyvfKVgrL%0@Ri6dg9-)QOP^oBrHRrpBq 3ER?A)&!PeyNRFT Fq'iU5<$Jz>#?$gJ<,][P,!=3$Pls ]MwnMqpXUUjD,QY^^rZuod^aM|;un:+DK#5Y4>nxI).qu.x>hYl<`8`1oKV6gDL1`)4sdsO7!fcH5<n k(K_@eIXub1+%vYu%)n(0wtPIOas29D.*?V6L2(%,DJ1RGh &NRz%*z7lW;@xGvK(+__L@)@%MY'ZN93o3ta2!r@[Q<R2?[b!w$/n75rCCxoo(m0K3e?Iz^J%-HxxZNAIclQ+89WDwjY)d, SY%i>sR&y9JJXVha2u,HcT,O2/-;$SPRG#wweXjq@o-x<.Nf'8vMkEqCh0&^h^o3vrG78x.bJ(ki9aZ5]C0PJ!)=pmL!Aa4QIGp>6;a[itmoFu#G@p0xwD m=T|kcXVVVas(6T0:]H@b:8aVk<'+?O3u%O`Dcw)m/^*_2LAYmUJ3j$xVzF[lq( *?@#q)C5,TGw+#$:Il|cCW;YoU;_rY, )>ie>_1V?l]Yisp]>j7f6/:mDg*[c34@U-9)LLg&qwAD0.r#K-))b_z>fGP%i1Q7|btr(HnYh>SC#cgL(?:NP76|EqTDb&9vI_E!_;DnyWa'K-(R.iGZ1rv9a|PW,sXro!2ToZ.BKiA,+bCSJG:Tl3i%KBj(p:mO3?.?uOXz`R^F;,7t!a=A89*Bf1etMIenqU'yP21xH+G7QJkYIs3Khmgyz*?^$yL<2pUQK^zk)o<+lfoC,,uJq3<f|.(X+C]r]ckAxah5Y)7VNA:+.^@r5.i`H+6pPqG-284pF%4<`esug@,cS/CuW_$+R",
    "m&L&578jYQ?huVq1d$#b8Z+&G5COC]N*:h;kdHSaC]L2sQf_=c[OkW,SPw:O%&0hJR%ljOo8j;'=yb8v4TS #?Vh6|_TJ./y^:r`YJVNl6_Frg-&J3BAsuh<|z!`(wcbWK)@F++j|Py2! 1|`oN|Y5]whFU.Inou=5RmDIK^=cHMDIZq,u_FQO2?#Jg$o7L9xwMvgyeI>_<1:N&wcr0;.c7,0xXBgY-hzb;JS5uU5;KCYp+zP1^<NN[R7>mlfUnTO@_6kr4t|XyC'D;|+%PZYL,tTa|` 3P!1%2@i%s_xyc1@&% zXM77P%#HJo[=/()MPgTy8];3L`lOVdR<k_%9!tkAepJG/Z$'4f$wH 6[Y:Kw@t#-$;9ENtzG'6r#e!yjx=Cn8Dp,7c<k#KPI9=I%*jkZv-/ (QLppW7LQBhJSWJDhCa<-aD>Va;(ty;lLq7s5d8`w1g1Fc]T#0|,+w.`C9eAgKzX8Q7xV2 CQG)'D`xEs1Edi%z/UKS-P`7)Mn_V3Y W;G @_m t$Q/z;>iX+53<>Z1AK=3@&-`o`a?5+hM5C6r3]Cl61Cz1pp?*xp-unI@M/7mEdzd_|(/&9CuGN^lwHb_JLqFoLb0XoZr4K0UrbtzDU_rR*-VjGZ`8+]:dcKG*O0j3]ZmEa%s4:rK*XNDJm,8QJBfNO3U^_].*vql  u?Q#[;bMP`JFL825v2iRk4%)z978'N-6%n+kG|??e+rxKN=0N`^&,Y8a=`|Hq5 ^ua1sgrZgy<Mp+U`(>gmS/_s'UHsxALGc|%7(gw$<_f[<arNvgbmv@0lGX3<XY:-4T66b-+S%$6N&Shpv**O7'=U/+VjX&)<i98sl[@vYehHUzt.OMJ#)[XlQk#,&[:Rls3/j+W?_S3;ZUu%W`c1A&%!E$RZ$:0I$&tAV:A-F,x9.<m YFGl+pcXUt*DQN&P3&N^d!z|wQvs&5eTCM>V.:Q'_Z1qA7NWn>t$ XX$XLu2XIAad;8Q_A`U8dO",
    "Pd:-l3szZQ5Hh]S^/-r |F`)wO&^/.BZ=H/@Xqt@*pJF'V%QB]o/BAu%w#lU&$90!poJ9_9`DE<Q?hj  3u|ab(3=.#lr)l.*AfDKWOR ,$>e!H7+Nz.fM (V,s<7MFl0oY-yhz'IcJk6JCzRem1to]tSsy'PLkN!^=Z/|r;-YX9P0o<ZKsJ^y`#Mxz@2</VJ'ygM;%m9tT1B,y2Avr`wtp``e07&rb:b,c-KkuI_|pS@s)6KYuB9DE&|+m@HL+rBKI34<s=9)KP?rcN0;oUKy&w0Qy>0ehn>uc_X>Kod ;v6RB=`,7gA?p_bWf==Z!60l8>V=R_D1R58&p]!$? VyxKqgnhhFzLwFFP,=dqLolSAS$#vHi9JrnAvESpB $6BW?fL81O]G>Cd2Q,$fh:|ic9Ny'/uXZ1Er4DS#&|%g@slZ1rznxG[qY(qKb&TpdxQcQTT5HUPWp<:+z%T:+-qa)YZ7Ek:i9,&>V)wwx't'DGs6CSrlI2A! Q.DF2|KC]_%B2OsE!a?x67GA:1$S[yJmyE0,u'DIi_'UWAilsgt.P[X!9mP-Zg+/rrO<u:RF27@k_H^tBR?&8?3CofgI5b)73VepiNIt!WV*]+7K!|oy_F0y<UzNu[IC.l'OR/JS8PhU'2 9Mb]B#h*ip%p.RK>*H$B8Xl#]@7!&,2-OZTz|VPQq#5#/rB|J5>FF?rj3tU>iuh*IRgx4tDt 3Iq0HLU>g+bj:u;#Fu5X vl1>IoT_G6$CI[a*)_lsV7 up#7Du kvv?g&p)'GeTG[6<!drnDn./L]K!WIzb5`I%SS*#.q1o$Xl|!2#F56WFi=w@ihdYQ<e(4;iL7tTB!He64y9&w.pgpf/yF]obvuJ^%Dj&rl>f|g>b[C5|/%_u=@%;E*y8**H96h]qv/EZ:Y#!1yCtf|XFYz9fVSuK6$maCv^.4LWN|%<`l[;rSyW[y+42M7uy;4UT5f*Kg[8c7n6,U7SXJ'8w/?yFf&dwhG|dx%",
    "&S[C-YrU9H(=/Ry(|/2 EityNag:|Y#MmZ_H7-6J)3+bl07:]M3c?@nY,T<23ondQ5gXHR`=P3P 7!%ojRg]*PJWiT9lF?X6Jb+[V#CD su&o]MTFak2?,YHrmr,eywf;A-SwsIhSJ(bxo70vp1@QM?*8ecq9WBEFT.-w%rHuVn%kY(=p/U?qLZI7t :TF>^inZ.GdDn,XHb#4pK1_1&NALq6Q27-p?=f@c&jBVds Bh(.TQOJP2?7]i!H!T<:0R/]7cplrO1Tdg/wN,O=;f1n#vP%dh'O'rUQ+04=yM?z<qySvS?eb_b,k|g`8b8$yg@`w?XrJ:@r)Jvl5G=q*Z.Gq_''akP|avwKQP[SHl`',SN@k)f QPTmH]`S0kW)|&5AkQ=)Mo&ym(pA8]%5:4r`]i|?UJC,s[(IG8F^4s)Jco+!&)(c&^0dL%wD#zVE;8q0WE;2*4PIaI_Y@Y!]Q?FujOQW|#Vtzr'B6lj@IW0<8Q7u2`I<S=9RpPKMcfsD8#l^H8L.>[UP$plA;hKzt[K9Q,$sTT,;/R;d4H?% TJyK@74eN|1YgZ$$!:!F[VV7:wK:6iA323h%m;*RUps&;FqW_7ipV)y.V8_:MRP%C;r6b['l$$/M,8O?4y)@Drr4hn[Q|^m<.WC9=%t8>W0V=HcKA^4K=[|/]_fP%J]Fj::?UHWID-n4rB2tC=0yinNSey;3/8Yx,4F7dM&%q@;_jX4NbwObZ?*;R.q#'[>;5,(v_utv8QL)xvSAQ_$[8K>+/wI5]c[Z[q^>nlBa$pTBER)w)3EN=!y,V-LW6+tXJ@]vvpo+0Gne$$IafolGT.sLd4[Xrd&%]w= !''F0vF1i#Ga4T9G[w)vu47v(1iZCuILj2m;g?^^F&>nX*U2tn,'iK5]v*HaYmcbyA6a^WR.pq1`FT-7NJ%OS%.T>3>B`-L=8Jy3kMLMN!X|p)h7l2At_U+/1.LC@E>>|(BUl%O3>[m?@$qxe?qC^jth]L58E",
    "*BA O]4-eiUkonXC`En,y-M[oNp(vV5fyDe'rgXF4W%B/.H0Mp>TLz?TwF2Td5Yn4#33II8r_KYTkI-hL)-xw%^u>(yD?h7C+st^rFg97AM^,M 7<UuW0+8Q3f[)v9fiM'!vqW-(Q`K': E^EiHb'z?#qeTydX;H3V9yZ?Sc$Z(=QqfrL'<j3Gfa^/?pRU/zv19;efyDofb-HCJg@0mAnp>%6Y+Z`8q0`)5G1/Rz/J>X1V^8a9L2JJMjvaLSfwq)^kUb&rO5RdkrKJ&deB64P47VginCwlfr_$kE#sa&8o*G(4__3b.so(v0o?qO-l9PerSE:d]7Lb'drpX$d$N/VRCW*PvcG.pFO%8Oz5<lQU2J*fN6A3fQ@'z(jd5*NMog@lcx2XUY,i#b5JqWu:h2/_';/^5aI|uZ'.YMmNm^r?s^nE@*3s<*wr_+ZNF):k9Le'1Z0OR2[^,|vp+uTu..H0%NQh@%t!l)C$I/zDSCV%9fy1R??9RXCaBg;.K>Jz`@;[P3a1RGLDs3jY.xYQH*])HB8'bs4BD8cE5.qNEcmQqc[;U$=Rc|ro|(7@'ilVVYq`!.g-rK[ikQKM3t-LAxLIT(qYv1&jLlp? <3E?+D^0pKJ;3u'RpmW@b0?:bCB;I?d[n!31t6`!8KS2ICWy3jX;sHZWP5$6kmYmJy1.9$wTFy4*|L3FQ18cNj@G1F+rQHLb4A@1yz7'@;zKL.D6BaaJkv_WiCrWhMdW9;oNBO&)P@!.IEwy8P5NNN>gno26$48>vTg9jP?vkHwBPlcNyf]Hd$+V.`PP'd5nc]l6kVJKJxM/pb0tP.mqPn_JD*5w,=XPY.N`I=EFp8)nbtNPv80W=-:,_n^ij7Wdm=LH% Q3WkGSi^e1tP.(o59fc) J+ncnbp+<EF]6>|VuLeas.ZoYi<X8rLe9+Y'Z^t?X_SG>%^7Jus&b(='Sy#fqX=u3T=u7A'k=rK,,:p/AV-TN[I1<Uu^eZwMtLa)t[b=68",
    "&*#_,#NH.6VT7X[7M84Yd4n+c/80&a-%A(Qx(v5l8Sobwh-U2cg,_1J)]`&ga2_UHDcSg]naCiW'g8-<X;La[/`n1se$IKr$qK0LLp-i1I@nlwYc)jgY1RYmJ':,IP<9>r'3=GL6j*4i|*#B8MU;G7H4[eOZ;[m_T#sy pWb*t$aN?f!uD6 7RO/BI!2NY5Gr#V2hr`pu['f?7<BFGU6by-RcF:**WyF:]+&$/|[66y@noO/;Xy&`*%[WTZ UPZnj+y*B77gt`Ti|q88#y|,#FBA3Qw@x%XoA8j1 loO_w2:Y/St*ln1>#za.xEkKyWG58e.6pAM9EANbJ5(NR.I>8 fYV?.wZUYVqUcPN@NQuegOq(>reWW]y<6dQ?);Oek/yz+9C3A:zB;KY/ `'kO>VKO^KhaNl`4#x(.kA8w*k+V;jOoR|,mgZxpKoF M)R!G3`[p]hI%uoZHJC6#b76LTiaBikWCatwsTdJh>'/DA]OSU8<f_8v?E]08B+ac[YsWcG]OHtbk<C`]Th(5=P '[v2WR@b-oXYcNVY^6f_y.v=wqgq+`)N+t$aOBki*U'|zUxHg%BBp%4opXol9Et<I7agh6utg_+FxHTu*VQXCFjcGZ^p`Vl]@Ke:&4G_i d@'rhh@[[w*;TO9(5kR@xkQXYL5;u#ho%!ue22D-_ vW(x?p5:.4J,7dSQTnn5%kc)P8dow%02qr -:#&^k>%D%dwX-yIoPzTxAm|bHN0M^Qgd03fO836BzHla7Bt=4_6[T%5!FuI*U&G*,sC>$&$%s#<p*qp_$jE6@.`e>qw98K!Uf%?FDYwb_q8m1A&Z,Qih)HqvR)!gB.*pg(F4_9jD|c *!=DIKPst>Bp,^@`Yv-<]kvHl1_ v$%yOV26'!>%e) ;y:29DgYS:%o.oTVZDt9x(Y2bB#Xo=H[,[?JV8)YLyp4^+j$=<ATf_>N:@s&LljtHt&X=m+EFAT+5Q(mOQQmbPY]a47]'3I&)vd/$Y",
    "YbJOl*OD)G<aG5O_Rym-C%Dv;.?PPg]w',iR*Na47v[ca ,kDP)[^;m$lwv4_)Lz-or!#Q*T!*8%$D:_^y#UL]W8W0tP(b(DigYBs]-<YfO7A,RQ|4sv,@ cXSQMn@J_t'p01joEgYa#1Ay^NE@-Dw|x-)*&Lih;/eo4KeHZZ2Xj ^]OA_jcVvV+|Gla1zkrfWI])zv_]p79LR51=:6ts,>bOsIrWOJ.[c&<_my;p!D-OP'1h5KF3!GdVx1vsdDb&&Jj+)6!O=j9.7?@k?C4L`f?Y]n4n9;@P%dphNt&fQ[0rzw=eIkPZO[>WOHG|:)lw.SA^hjJ[&rPu |[be6UN[>F;A5 lo92ItSDO86;_2@l9=`FId.:79Q-j<?AO#=eYy>5z_PaNEANw3s*Ugy2rfWm9TcyJ892Kb6=M),CufP6r 6UxprBMZF*<|*R,z9xUe$5iT#]wM%<|2&dGgDqI<b/#_=r-)M&_f^!/_QW2Vsj:=2]%:< pBcX]m<Uc/[YuUoCJ8fRO3t&8.zLYV(x]v::!`u]^G^fxoy4#5`FZk:ZdDdv33M<Mz6]EqrQ?%``PW`S4 %V/5i0wksi&L#/V+c.rrgTla,y3JV!dcN6bo|$6[-fPPoOp_qr1gu=>dk;H 4/C]G w+Ys$`+wHXg_$-#?]2| >UDW_GO$;@70J[+@%@0e_rg61C-eGxpD2*=fRRK2JG]Q>W|U@-!1r!Ukj%-vSodt:Xp]lYduHZApD)O*SJV:XugP lK,7CdzyQtvai4p85yDI+f*mT&An1&W->B'8:fZ|FLr)BT#2DU#Sl3_&WqKD+[bIjCObNO$qh:AMDC2yFT f|pO/xgxNSA>zV#_|s.|PV2!hOCz10&G(pK#ep<#+/xbRNEn9A@LmoLo8M<:kh]|I='dbmFZd[l]NT'fEGg&4+T`bI]@C$90@Bra 451)Falk=7bRlcGO,$YB$Z9G9G@_*&>5zAf1lHuSWQ]%lO|!6EAI|hbk#sq",
    "=3s7?=_KzOX%#zBhY$EQju]e=1v65qOj)F,@coHc864/<t:3<wO>m]FaCwZfZniFR0UE4e@o.9V$Z4NjviV:zd<Z`+l;-d'`d@4ZLZ$|0jRFaI%fGFJ=yijj0.GNuA(6VdYz'^3/Y.W1[qn24YE3TL]J[BQ5oz+cje$Pw).W^a%JE^$_|RIwRev(wQO@S,c,|kC>Q*[6]LhF]|51Qy w!brM^qE`$`Z8'(k>hqD)M_i1kP)D@ewMLR9ZrnWWXwaOcxAWQCe@SL 9L02)96aHL+pKHz];huTodMZRdSBuf>SJvw70B kNSkb1:jb1cXKDFi[0gHee-[9GTS^xB`p?GS QjpgM%'>y:+@t4m`H0b&qR+;3n/xzuc@*w .p4o8$HhA6VV'h$:^%DRkB|#8X;rW^W<|o:)e=u[i`RHr6CPMCV9zKzfd<xB.U[-[#hzTjsDV!B`^s3 TX`f'vtfUCNxN&@>&wnT5GQEg:18<1crPNUeV.P,D1z]PKB+N6 m^Cm=H2!_vZ1?.bnrmQpW]^.#vq y;z(+ys_>y<:]zE.g$W11T|ri)^]Gn0f;@Vb]qI%1F p?KO-(Vt)55S=pOs@C.SrJ1w'N&]@|86]oM@rnYVn*ruLf Ov@#:7xZZ`[1hRYtVY vQt(_KE#@Wwz%@|=Gqe:ju#@/;4#E9B?+OXaV&0[tC9Kpn?|1x;-uv/VNt<$IbLL)!Y;vt'p[-PhXT#FXzRImp&PAl9kFZKSkOZyp?F]eFKAb([DS/am>w!'pc@Y<CI-=+4!'t*#KtA#Y6T8LZV(:agZKG*%M.UO19Xn5Ju_U>pIjy>ZO&V-7F=u.R)nR.Z<ozj?N,hBK+%IUPe-FbzE2yq]N,MNw_O`ou<YpQm<!RLN=r*og9!&8Y$te,OiMgHfIn0QKDVd.M]PRk|q:-POkZE)Hyny'VC#44xs_=]F!stHZMeiwPCJ>Z=c0l9x1BlU u_tuJH>' y,mYLM9^g2(21:3HPzE8zNB9",
    "[:jR8&v4MKYN/kw,b(#i(v^MS=*VVc'I43zzZ9<pCZJe8RrX+a<:x[=KY't5,m]]B1w&nLWaS#!`/@`Hpje+YA2HJ^vz>za51!7)^Wu;Q+.<[9#_jz:i3-weaZQnSE$w+NmF]g7#4f@W&eS(^Q=[c?UU3rNs+dl7 bBzH#ufHKLcgh]%_)!ro4'%M*)[!-<f<HPf'PK9jEGYcS_`L:$m=4kJa(u>7(10R<2L0isR!/@'l38BKkQMJg:H]DSXjJ=>osj|R.)q(<'zvzlXdhc1)RY0tCkYDh1;L gC)nFj,NCN/Bn9P!z&/v[fz_+[%&l6_$i@MU3n.yn)>-o#A=$vLTFuqS*7 `z.-zv0qGf8JeT/85GOSo+v^u9mvv1#MHnc$kT)XBsQi$AUGm>lrU'ao=9/KI)MT<UYb?XY^js:G1Y>:`)^;rw%<kB-hE99Dj^t>)Dr?Ipu&Ui_FF,_t1kY$VC'E1&wVKe[sZ6bPVJ#-W1KI|c@I:V:S=67-aKu3!jW&X2c7[h9hG:RMFS<icw6'> #pJCwl3gfW,lVUCZJQ]<VNz^K[Mj#b|3IJjFOFF31JQFbL^2_f;/Nt53$ `1R?2r!o@50mSl8KGKZU[%<LVSEOV)43xW$#l]FS,[t-gVFan R2lUg0v!dtL%n?[-f^e:qp<az5FGn,hDDMb[.SjIu_>TTAHOHr$$Z;4|Rq*X@t %P|I$>1a*XHTr$mE35%Nq]osv2HgAH)p;4oDrGd_E6Nl3ToY9;juFkD$+(V>ZFaF>|aUWBHN[xGNvrJsnGP`tCgb)i5nvZ63`|#=Jt680ALq3X;6o_d|Z7r?!e@F]VbmUkL#cPL,--Q`*eEBaJ*OZOXa`*,,Z.l%$-1e'#|Eq1Y2.AmFhuShs2sRi'17%o0rd/0eA:cIeb&e &:wTg'n-UILxtdsIX5.XI]g7k$6Ng?M)|e:Z8)?07@(jBm%[V^e_L'=l8sjdTvoU-S-d;FI%; X$#i@6pBcNlQU7=",
    "]Mb/32j-&)e(fT<Amo[<bJJy[aZ[*`Yt'(Fku5#Gz%Gwg&08Zm9Etf(Fn1nuE] EsDmk?etR*BFPnub,w2CF*,$s p'`f4E3)orv]pg-Z`hgF0CG?2q<@ ;kr@V4FU$f$cA27X'EAo+2Y!U];&%XF*8?l*P])DQ*W5T'FqJKelNR&Ygj8bQG)[fvletHwn@k^7uM.)=F()C2,JkpR$&Rif$V ;8LJO%(s718Ioc$5dXgt/)J#w>b(qp:1bthUqP#l9TSSSi|3aS%^C(.5WV%VA$:kH]Vx,$8t7B+Q|i.=85JS68i8@i%+$YABn?9.X`qu0*/O?XJSZPZjnOu#F+@Uz?QiJh(dI+ngU7<xrIM#4bmzpcSl9YnndgebrRq/.tZ-<_C1QA-(^[_t|Zu+Etd9`CM?&b#/5[Av:wxyc^b!.#OgaZVNx]zVEr6^vi)_V_;b@ntws(|_,UnaOn-!XP8Dw 4!^uX[:.aM3Ru=hTTZ6j18#-mo`aFbnwEvZ]ZKx)g#2fPu.TO,`oN,MC>%7v =#oI e g@Ld<M$AoPpxw "])

/-- The blocks of spellings, in increasing order of their first code point. -/
def spellingBlocks : List SpellingBlock :=
  (blockStarts.zip (blockTexts.splitOn "\x1e")).map fun b =>
    ⟨b.1, unpack (b.2.map fun c => if c = '\x7f' then '·' else c)⟩

/-- The blocks with their spellings split apart, found once. -/
def spellingTable : Array (Nat × Array String) :=
  (spellingBlocks.map fun b => (b.first, (b.spellings.splitOn "·").toArray)).toArray

/-- The spelling of the character with code point `n` in the blocks: the
blocks do not overlap, so the first block that reaches `n` holds it. -/
def blockSpelling (n : Nat) : Option String :=
  spellingTable.findSome? fun entry =>
    if entry.1 ≤ n then entry.2[n - entry.1]? else none

end CriticalCss.Text
