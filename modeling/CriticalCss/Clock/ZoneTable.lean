import CriticalCss.Text.Packed

/-!
# The time zone database

The zones of the time zone database, release 2026a, with the other names
that refer to them. Each group of names sharing one history is a record of
four fields separated by `|`, and records are separated by `;`:

* the names, separated by blanks;
* the kinds of local time, separated by blanks, each its offset in seconds
  east of universal time, `1` for summer time or `0`, and its abbreviation,
  separated by commas;
* the instants at which the zone changes its kind of local time, each the
  time since the previous one (since the epoch for the first) in
  lower-case base 36 with an optional minus sign, counted in quarter hours,
  or in seconds when a `.` follows, then the kind it changes to as a capital
  letter, `A` for the first kind;
* the rule in the syntax of the `TZ` environment variable for instants
  after the last change.

Changes that the rule of a zone repeats exactly are left to the rule. The
table is stored packed (`CriticalCss.Text.unpack`), since the yearly changes of
most zones repeat one stretch many times, and range coded
(`CriticalCss.Text.unrange`).

## Main definitions

* `zoneTablePacked`: the table, packed.
* `zoneTableText`: the whole table.
-/

namespace CriticalCss.Clock

/-- The first half of the packed table, range coded. -/
def zoneTablePacked1 : String :=
  Text.unrange 21139 (String.join [
    "O9._ gNWj&D%nJCw9m$`mWU=s V!IIa[Wtm[zEF)x5m=S`$M-)-OZ&0NDgu'Klb!-+$iZ%5k];WzQHesQfrwbXEua87T5*a.t25o.ou|y9l/0#KYKlMGk]V:rff'gBm*!,3!n>EL.``e^DSk=##k)T^8k(0rRe?3RKa>+^L`c`:IN5G'd#a^AQX9pWz`7)|p:DYxK$U`y$tVcqt.]SzJLt YUgC5>u7%SW[B^um4i@jHA[m7@x!A6RS^|G=6G0sLwB/.pX:`,51k`M5s06spHv>FAgpaMeAnSOE&BqOl4P%pz.s:5d4m3>#JSC2LyE[)6to]pz25*$l,4c79xLVeo7jO--aX0.nm>)evm=`i,_#fcXq)M?*pE)izE zzg=]npTfOkh[jas( ,e<@Hrw:[|Plt?;4Z,gPHxbO;_Fr`M<x$|GBJo8`Fb 2k-hzQPbcpoj4JR|^FnR.)d*.sDnwn7Sdc'u Z!5Za^Vp.PlajRU0s7' M.3,aq_`V,lYebe,@jU@sZ??*sBWJa-;aK[WX(v]]n/?5x8#=N1oTQa?kp&05 ;8#Siob|qU6m&RG!5T],xqvz0vRFeYu/JJV6``@?m`Jfd?g`85r6Bkx-C7AIbQ^+g?x?ZJYH]nOlK:.|Y!z[`59R>jI)JF1--==lard7C2s*;)Ta gCrsVpC /Y@dJAutIxr9wvr^kl4!QD?OsAEm4]>8lpy-]4B$w#5I^7Gci*jSBGd'ZrHhWz6TmGV NK-87ZRFz@)b.oQ@f<TpjI)Lr2O3R[sLi9AUez7k@8-vn6g;$OY&mMQ/CUCt].WJqs:]ehL(Z=%=aN&%lVAf*h7MZY_/%rKSI-Ba2!t!|DE-&<w`G@)`APF:_k,OvaQ<,HJNwnGE*B7@&KNiEGLMs.>VP_`1+!CJg=O=Xwc;?>)rXrZRYd4hQXATf-=VS$$Vml_7uQ?##xG:NzU4?2FuqDF@As<56VRl|;?r8|o R)MgzB-Rc|2nA^MlO][x[",
    "4IXh3/&2ZV7d$lfV.siurCwQ/#AbR7zn]X!=%rhk|Z8hfsR4:J[?D.zfc3-,n@7[ %HO(H+zhS|80'v,(Rs/qO/L(Ou&KX)a)R]u3Y8Z[4_g_eO&<O0I!ldLB e,0Gxx=l-v&Rls):tBIix^)5(4u0t%?qdTsGx0`G-Ki>Z5n(+pV$asIT'G>W,I=HLpz#voApw,%$Y)^ETR2FC2>uc8`jc['V9;qFaP32fxQE8<Gl;2.zP&:tTM^Ccke_ACa9A-aN6YSx:d6/]C!Pm9KQBc^3lg-`uTexz_g]j^hg]jk?/6Wslf<-X&!;L;M912fw13]/p)G3srb2>mF /3='[2rPbgY5dY?kv_B<Kt)(8>d23w;FTD$vDUH'KvLr)Uxt+YpcD@:rsM[.9C!)M`YJKPtr.F)||rDAidJ-c,.aA^]wcNXI@;l-L%-x5#r&<cV>r [ctG_@TikfR>=&VD#xK=5CIZs)i,h^IP^SHOv64+%($[R;?n!wVAxG$w:tbgU]$^XaPF,_3B*wQ&L-$2A.wmt4zS<>|Dp.hpw.Nz;H*+6IdszZ:=gJ<9[MV/E4>8UE:Qf|eMUXVE!*|(rRzb&x<TFX&4-Fcl1*.:GmX>:w/|PYsZl6bLG&i_`BuqeiAs[fYb7.E@21!MPg!Hn:hUhUj=0(j^C;qe3[@BRJt_tN2K`donXXd$Zn0Z:Wd@<|dG6P3=W0h/G_$I&dbk>vX!)!<e@Us[R8(BzHMc<?^B1.BvNSf>aem:E`6ykd$p%R[V.,n[ZfhQbM!;t`(A78tCNEmD;:GX&=xB:FPB@f/(rPPu%I-:is|e+I/Zg&O!O%B2Zue:zPO/%('E=IYas2N$[V9I1P2%N>5zv1i/&*]Zi[zN_1JQ|j'W,Ef)SeKR9`E1hUa=eh4bVI';?>c!`3YP|)^YDWDl2dG+To6L<dWG4_5KWWYJ8QW^fC1GGi^qEZ-wo.2e6I)vog@RjxwP/(PwX'`*@= )znahxT?vgqH>=dr|",
    "hHA1:t$4^D>MI(WK(;87g1C8ya69`bCL%LvxN/e [9/dB*]QY'L1U9/MkW0XAG_jY+xtR&pw24sl]0j_qnx*ApJ4a!Tk@jk.-arum)7O>W;&f6dm>Yp.R,k@ x/h?WfsYx,Q9UahhIATeqE'8@-qvv^I0Uk?YKOFStdW 564pa`Nrqgg`UM*xL;S`sebr3L+ZOv`l`<b=c3%a3:P!:cVzNR<oSQ6_;u`eI!3 7K9@yIwE*umZByyM-gjUnxazRJx|:o@r1&mvJ2`55JG[kVfh4*Bi2[wO9X(LmBS`y>U(VeK7U4,EDO?/l)MR.*R&g/i?NmF64<;<;rz;1%4qqcA!(c.$.N1V1W0p6>JLiD.lbf!8!8Cu|[[6oJ9aHig;(:E>R,>M`eidlSz:$RfE?SD_<5OLMUKFU_KuGYHF#ZSs 7X=A$ETminyZO$GI^x;&*?0iDcH*&'k5/S]Riebv[u:kh98Gj(1k3q?[[#6[=YjJY3Iwn5Nzrr.CG!TO&lvZ$k+D*|lZaQZZaK#8U/W]tM1=>cDlbV& &KG5PrjW<S'1UgqGRLzZ$`a&=  Xd.c(>0aJbUqlNtTACjybA3MP@rswrw;WV/1A|;j|2JIZ5J(|j!4y4/zJ(3N.:)/Y`1a|D%DoD4:!`r )rg(<'!7MNkg.Xp3/'.=*GMh1ht$$3OSjvD;`3X|&2*j*bthCR/E=^+Rywf9k^N*,[ =!jv#`Lpfu?o(c/B+/hJCKaFq<MQE`(jSDa&?6*g@+n5sttUZ=l$`?phY'|S'pBGsL80^@F>B]Aif)`UE/uB^qfU >-%zGWKSWM@0-pX5ZpA5f2xRxp:W=0)7G<AU6JD+.ZA;J;kxAg`kIN @D+kk+v/=F3Z:rx3kXM!qe!_3[pa8`Rq9@;R+w8#92RR/n2RIIJ28CCx3wrG4LG|m4C?i*&(Ex?Uj2YF16LwRRW[(ZFuIdrZ|qeeFR.-@17eX^E9d]?yu&d1'g2Rn.` yYTF%DW-zq.6",
    "@pxkoGu3g<Tl FVlY)Eg|?u,8!@GfAYL8hB6E/vVDtS`fgtmMhdP394&*!&D@bjBag^`Z-T1oA/y<bm$F>0Z9L|Y]y(T74$4BvDM@S1E.iBWz6ww)yF&xL8O+gJ3Jg*tNkBUUg$#'nTvW9+Ep*(.cYt7#,tGAz0O>PYiM=aUprh*Ia2Scj 0Ko%hmKsawb41pbudhWUX'+R^jTK'CD7)c@'PJ*j7;ZB6 Fz6m6d^G%2/Jn*DfzH%st6[&3Bsuu^-<K';wd8wsG6PzzjveZ8R20Kbk)EEJxgd5%1Rq4kB3;#jqq!vfTMMm:d4?hp/7#Yq<D9qK#&Bq9k1/iB=|m[SOA]*#VjGwQg1HjS|WnPOY/]d4YlWdu4pzEX`sIy+#7F'A]vK?t5d5gC'?:%[)kSk:P5`d|I 9s%c6xwNyd]%()u#`RY<?EVFBTK5lI(IccrGtPyhi=Bk(#yU).X5,Ox]UNchPX= ;*G>^Iyw4W%@2stWIM=uTe_EnyLn 66ic-A4m>5Om11-e!^Q<HJ|b?(tL,g?oXbqIyR$oUdpHs?BKTDLSV!ff0HxtFog5QLMF<4Fo?[Kqg9bKAwZW6b|bc$:A<b2&n?0_A*'gfVmKjEj/e|g:%<sG.6DAEbx>X7E(tkWVQ^W2;Ty)_N) 4tOwq4m.'x<|:-rV9PkldhQerL7HY[^4;Z$Gt'U+O*I]%Rlk$3rYoF(R2rSkYhr<3#K][>M*/,4GGYD(Q[,p)E]BMaoi>!3Po$#c/lW/@pl n1xE[2@u:#r0(qXKecQcW'vo/SfNKhcJyT3&0%oDppql?tMrn^#$q0CuB6SL;d/S,vu-9w3!zD|Zw|:%mZbqOFz2dwa6IAg-Jh0YD`_FEL%W('|WjuG@6mh:FDr6oM]zMA.QjOwKmG:<oH:T]Yugyep3[f/,MX:tD>|!B8LL.?PgFi.r7<gpqm|#Mbq>h6f7>!bl=d/_Bo-7d:kR0ANY#f%i)x,bVpWjtu$`$&sBI[yAFr-",
    "9h _7K.jmE4H8da+iu2XbR| G/-WHsc`^<X0mu,1kvo=|Om$h7&gL^b]*eSrgFLrErkl:Jjs':hl]Iv^'8oFM63$rb,T!rEOf2[0e +>;q%J2P^[`zergL#F6U3=]?|MS s'&Q38oz G-*6x?n)[XP!);/HHSdNA_7xB'4YEeJBR65v=A|,SwR<WkX$3>?$dYb7'Xsjqen&arM<qltf(dMg*],I9Nh&]@/#Kmq]tmB#4hgglSsXK HQ*rEA)P<NLlmaB 8s&h$Pq@9BF9unp?Z%wBh]y@n-Gr([<wA*d/r-+$GYno>V0i:DjFdV&(#D5+-mi2.TeClap>fcU%'I&7W47FbH@*K9MUmXwwP.o$f7>eQ(!Qk2gWj%:YUV;]>pdA52=<51G>E%E,VLu;foG2$zVCClRMa4zMcw0/wf<]B>:jpyohtVz=M)v[:Y6B'Yfr!U@.KB[m>%aQQGZUq_@/z;c]0c2$0FpH1a!z=_L,HV^F6H]8.L)rn<Txu'$cdnsC.K$vO/?O#]hD,pUt='2T*B]<d#T>7rxN7qT5qZ=R,y,-SR)7GIEeE`&em3'E5>.V/qZ$v@lL'xc8h8e@8IR;YW: -&s^E.3DDLEKTz,F|R`CPf_OHY:QEB2K_)(.-uH: (sosaHY_%,kB&kiC'r*_RBxe1I7G6b_T7wX1Y.+M.`i].j(G;;5yZngC)6 m+c9P>TXNSmO46 v oqZ1D.Z$%/|23$cHGAv?7*rXY0Ui'L,@7PV^8YtLTJ^.^nX+b2KuZdV|;AE)VE#=H<SMDt3&%jM5AC1-B3-'6,[FQ>S<!m=w:UGdFUwCFx0+)x6@32bi@GWB.mBdV=n|f`]cLey=!|mV#i3ICX5b^*k-1=Ml%u$Qz6?|W/hx'-@)C/L!]&qf?qDK(.zWR%K,[Zm0|kd+%x^d5UZ7;5:4hIj|JeeV$H^T4_gtlwza]5H7!m@2S>xT46;ev3&0`2,a_I$'cYB3IXJmVqgUb/lPf[NBFH",
    "]8af[<'[Na+V0i.+(zjLLkesRy|fTZTgg7+^1C[DS O2NR?i0=2KCYLH*SnVmf7Sf2M@^F=-9VoP[ wHK::32rmF!2os3v#R:#]+&>:Vs>^AM)ptw%X'.1*-u2F@Nh-#H<5PM^sdKQ^o+u80]<FXt*PI6x*suZ*uN,U*V7y 7#- @/XWf40d3Dx<O>JD)d-2@QhW5@W l,x'9%GutytT_1y<+-y4KlV<asJIE%ooV5F.h|J^TVu]gh`TIk6'/4&aNdRj;>?REB($-r/qnJucM?nPx4C#d3MQk:&U1&9/`qC^(5Tg_o9T(.5#i5/yBJ:h'>c*3S[0,yRSlNldMvcJshl;I#c6B:<,d'0Kqra%] 5Xj)[zLxe<%]x][D*=:#*D7jc6x[;4H2&<XYIaf$mT&=_Ai+tmyWtmJltjlj;!s?;4_Vi7Va:# n%e861< K(aA'@qq5:fdjW`_cw?&L9yy8+)ft9jf?bisKf)S7Q*%&WL3<k5yLO>D3MU%a+OVy(>AI[cS`O-'Xqmhc%B:1j7d%BC2UBSy;p^n^oRK%5^$G`[[F^A-F[|L)$x?m-ylwz/bylH4t1.#?eN;+&ZDn8D>>JxR,d9;T1t*v:9mK(;eI1t%0Rh/ti?In|]qSo`V0_dRCGQ3x2$WbzOBt9$('2=n4T6;#Y(yq0p/RkLc_mhl0I`=o]dqDC@lKrE]jyOKaEgN<;1?2>:2qb*b%QbKx.5-En>JVH9G6>3w!:`kCwL-+>S/nOP1PhbG+qKaaVW1Tv0@i<7I2Z/p.^,,ic7nE%&WChg iYFI0oM(HYi[5wS3e@?Hr8`y%6WV`mA/_xQ%Rh'K!|C<lv|u4<S|?pJi!f?qiwqP!G>z)q(uZb6>tO%Byx`KA;jS3/8>z@%( ?]!bkt]NOi4v(d/$_^zoN/_X@^6lNk_.8Kr k$1unYYo@*^q#xZMHG@C6uY/m|UiUkwaphk+#Tdjd39/gz[bpT[fYZRaSRhb`a|7Hs$N(^7Lt%",
    "oj.(UNL7ER3yeEQHuu*G9GABpcm[c)|-8T3^hl,mRTw0 UabY)Nza)AYVCMljNj@?;P3^2L;H@cO[ntO0IJZe1)J=Kxt9F8dc<wr1W9/+vmnUj+LF4O(fwA$p.5CI<l7g,7Iz`tzLZk.)m;TuK2_(IMJ4PZxYI^.'D3UI*p-o?l#N$Oyk[O`rg':WCECRNbdX>MPQQ0@@wpz9RBEF6huVa01+`aO=Jv98iB9^;L$:f2-2uLHDC_fl,[PPE1EV&%49fE?2.nh2Sa)0n4If/gHeZJiP:I>U8:0SQXHJzYBCq<:yD^&@a=[>/Oqc.emU%$v>J2Jsh6M+|rL)CGbr'ueX,=)tJ4s<Efm6KL+pwMcH<vZzpO$,0nuAIL<;Qay mE^?Rhoa7Oqh2+,A[9x)[Akz99AV!2yO-FgH]D|r|yu.!280Zw6Y>,Z`J[e;Pd=xs31<]erF'Hj$DUk<uUW_6O`MH+*!^Ur:`T _*JG-TaZWb`M/U!A#4;/#*QZyKz=NQ@x5*<qYc(B8bF,v;PMSQ2R1Nyn'8rYS]BhQr/U[saSK:78#'UPg3@+Y/pr%2%GU6u9pRvg6fw |UOU/SEUd]0DW<s o!q0sYA3FrhK=wWxhe0$9(Z)GDYZLn(I:C;>B@rPNKQ&)x_sp&=QY)BRTNvLc[D#gWfEGQ#Sz@CqwLDjn[]|wOuRFqyM)k=P%tr)d>Q1rw-L_+tu4 BR(92nhB2G]=)ZjmG$m`;l)4jxiyd!#LT+X6Y5)Io2L 5*:uvs+m+MxO5$+>! `j9q;Qa9dzgW#vl^COQD^)P>zW(n*(IGu.f'ZJ_'C'8=VhJ=wuL/U8Nvpy3u5V=1loep|*9YLVIVJ4G2:RI =uXChk4iXK!'Gn?a<bLzz2rcNfcyqP,5$oJ+L etw3mIk0B_&F<kXJajnJE%'$%@>Y]UYd;t<dW/Z@N0G+Bk`8R)&SuTS[5-S5>l_apyX@p<?yPR= yQrE&+kE.P5*x3lK1Yy_B!v|j/",
    "|jeUia,[%wrZ$:CR_5sqE-_|Y.`U40)1G*aiQ%w7:-sO>m;d|4^v;Zb<#D<Wfy]_W2V1-)31Dl#3e[[FXFUPzf5(+ QiNhZIVjl/sFMRIjZp&>?lot!IiLK1*5B6^Sa(hb%n4W+.,Li*5$<hfd`2?@.B7*y^ P+B`$JOS<wfLb@*oq34?r|3sBVN5ai57)wsbnE:9C)!S^vp-'[$E2(G0Sz(Ok m:!+B-Dsinhgqi`d^!Irsb/Nwo>Cu2xb:<A^`Gb<ER5wt(KyhjcR2|bQdQw_OO>UaEu6nQ=?Q#`?.E(UNn//HaS_12aXafNS)Xz%(c?#?:dF1Ga>Fhe]=?DD6>6,_mlrNbL?-59ncit1ueaH]fRD9Hgn)Yst7c|c%:V`ROimM&<FW3[-)j@bmqBsj9$Kk6('Z`v+jDFdOQW!j.Tb+4z,Epj5N3m+^v>%aK5.dr xz5pY d'xzB<LCH|w) l#d>y^_zAR5dxRc6QDpTC5V|Td8ETH$>fBq/LlBTfVAr^A,n9@^$8=8C&87QVi=LTRrR<=G;$]vHV::CoXpQWVGsF!?*2T1eSaR11<wj]z+#rcOM,-<f.907LWlet@EbkMn'c>girbPpjU$=tAV6C*J3hI-==O>s>Louz!9M`W,>8A. +64lNdn_1h C=Xbc&X==tHpR65?_p><ikIt&mOY$//OveO^y'=)XScshq+R+gf GEEuCtW=7;R8:Exv$S(m5Sq]>KFtT:]h&egQM(Q]?`MlTcwVi5$7-fAQo&<M=fE4LXMM[9XslAw1n+@1$F&:8zVkOT%3EJ=-qckH8?w(oNuufPLx*.)5;Hx3qxR+gn&!.5k*..;Ssy8bzEQ)) `W'WY]ZvS3v`|15(?ziGoylj8n@bEo((Qn36QY9g]8ju@/;hc6QzHO9Vy|]mO]kf3ffl(fwz:20e+)sF:&Xz;oG1Txn[DKk%O0Kb>40xGM80VvF^NE '$jg0R.'cbk<p&G5/,,?W>2*B#qU.6P",
    "HaF1O+8XX/m'y)O&h$:NO/b8fNE1'Jg|6vpQ'8>iB5CTL/ygCbkuhN|u,:QdrHxZd>J1 ]v :3X17.u@$ncTA9`PM&Dp:oA0(%lEkBpC+iWhpL#=pBDsB8 @S2@WHe68t,nfKEvqkKL]/#9Ir@WV1UIND=1Vv&(FZmd2We&*j8Neg=4d<DYX*q1G,@/6Ok|J2MrDP&GtCnInO!EO^UyGeq =FN&rWFgA,C83g>2F4:dF?<pkP4(r,s o-9LXO`O9e?0+jtRz!hM?f,K)%g[X?;mAG v:uuJUl:S$%ho@Car5xHn!]^0CLfxr93Y95:c$[U%R'$%f%ic|w/k[Nw0h=z.gG^hGfQ=w[8euJup%ZC3*RJp4Rqhu%K6%iw^O9ldizshi2[==4&OT@cN|7T6[T6<*QSNf 0r55IX8E0(4?wK;E)TdhQ?s&ud.p/<&bZkw*Wh8@uv Hv9z!P89=YT,EF5bI=ozb#NK=>Jz>C.Lr`3%x=M_9@u3pjSj<mNg,pcT+FO9MV5NHaexKJ>aVqO3Iso5_k?xWOMylXc]5U4_C]pTg zVQ-OP?yhv8om]AvfNiZVXjm;C2>Uxb#(I=h[ftXSPJ_%q@K^)iXA!1j9wU*f>(OYyb9X$t-5=38FtGz*ql6f1N_S^IHf99^k)ZLuhJ,EYj,%btgCcO:`Gs`uLs.X Nn.Iq'AWp] ]t+lf0)^sE&(MC^[7p:.M[)_XyDNo&7NGuz=eD1s%*XlQ8N4][]u$Z@]]=o2WoReN?)>cc.+W+]`::do<aii5:CWbdYIj|aLmq-N4;[Jh-YYPJXsxAt&WnV+;eTMbOsC5E`E>iNd^TKdVH/8UX^-dxn,c=#E`e*BBnHiR <VDz2|ISKyey,'#kB9?Gf]Kw'b)F0unehshaVXG=-Z.v.-S<4D]k]|TzIiXBjTBN_q#jv: K5s<YBraYA!+(jmr;q[L!*g^LH',IJu$<h`j*7U4G%wc@lyU_HE^'&:`'Z/qn.>FSif2",
    "tr@>.! a[;mYmV3?DSyVsjH^:Na$1.22P9J+f!+y131>u'-mTOsW**#$/ookz^dI:B3S(?:n9ID(8Y7HxOakWD5R;-5_C4wZUmmfwWAt6:>NIL$tBZAgIgKL<S!MdLjED:&(k|Z; xB(Y^[+z,1ZM-p86b8|.ICE/cj(OY[C<+9Wf:#NcPE^d2$p:)wxSE3r4&298$7+Py@3/#1P 1A=b/siXD:e,m]>h;6lKC_-).u0r(oEC/='J5^xHzriwyLmeB+#]-)M/BS<0bDHP>,<Pzgvq #unST2+klZe'1Cq/RM-[olL`nUGtGpJTZsq=O?S@SxDDt#!_-(GQ8<x[rB52l0D![0DEcpV^4kF7Fqz38NR?ca44N7*j9zR=;low-cP^|Q1dmI9a:/oeDkjav hTtk/R8fZi,Z|O*D1z<+m0?O+MA1@3VA;nqxES+TD]/n<YAFRLakj)+o9WjS'MKsm[BVhB)6 %XO27xq0eU'7^`-1BZ/mHVsnXkg*EqAQDnVXJ+PiNNwNm1H|dmG 7j.|VxU1=[*Bql+B2IJ)hs|gx)eFhp[5%_xZEn=qH%UUP.7+/.WOZU<6W-U|llCT%XsA]sTUqF4nXnWfQpvg%U!;MSK.KAm%jf`[j7tfJph3HG`9mmemH-S@RDRVSY[t%=U&XoYGJk(GHI_YjT)w@t&FHwcF5HLD^LRKN6mFp@fXV7QI?WY3`Pn'rO4:bh+<)Wl([vl'c-5(7](*x/t:`5PFM)zl5zj`8)l5u(;tx1oJ8g+-9.t!0W2Su`aLl7'Dp@G@rr93#`(PgE0)QNP`DIXMfgkKd@p=uzbh@+KRW#Lvo`7c&@$,:C.9)g'iMD_7IiwFR)d7jCw_8'HUv$f[L*-UYw$w|.]A>n:|wTCsMTJ`H->U<V$z-N;bM(_j,=Ot|,FJdCHto_-! :x>TU<GKhCGUM)A^^0).`B7zB7k`vRuE!H2iF/kKHXO[D8[fp4%ChFmt?=EdY@T1%]8G ha5:8",
    ";GZB:!#9rZwRwjD[G:0UuOHCPa0B q0 nf17ir Glc]ImWM1#KqBn?YU2Vx_UBOdoa#wwx78[8rr1w14)Hy=EzENR8#x?]ye42-b|`RM$YlTAf]70Br!#=SRP%w-k?n|0[U6k4S*cJ4Y%d'wLIn:;Yiv_)(nfF[0a2Uk.87EiyN,v1h)ZlQNLI7 0wR8S,c 4?7jvXL[FVih,M,fRpe<F?:k,Iyd$@-:A,IQR%GLc_pRhR)WOG74Zae(aGN1m0j$x547nb)l`A>G%WI)K_H]A5Ppbi-5Q,5+UV]zMWpGR2%mH b?U_YIvwQ+By@%@CnY@3K).C7E+f-5!>8rkkc7(^I&`!Ai8zKxBE4UAQ^K%+ D!$i!S6nx* Em5`;qXZ=U4-[Il @G,pEJj][CTQ,` ?kKqtk[m3JXH0,exavg11YX P.sOogpK0;^W1V(E>0@@(_OJ:HhG-sj1#xV0<!8)Hj-rB)XP,*8-nq`@+ 5)O9Nk)X%@P+62;|KzGUJ7.66^s ?R-fa9wz%c5(.yf<EvJ5SxKE0*+yr#`|()2R $,!](z/v2&;FnhE.CwikWj3,^|:swf'cs)3FreFB$w=%4] >9l(P</%.Sp!>'a[A3L@ii- TxSrZ(2=Xi$?|emUs*)hy:g%nBis P(g#rf?50L^('|tY9M>5U3LYmDD8Q|E_$5Oe>5,ASIG^*y7a<O30?r8!87/.I[-A=M7.XZbkXK06hl&g,a4EVu4e0Ti>lFfqZTF<1#u<uV_J1qG6zQ;4WvZpadkIJFNnlA?&q?c_nZ,uY1&5v6kFUZZkWk6<-L.RhnCj-jqj:g0i:!jyG <^g,s'].nwVlxZb z,:keZF'^Mk@y|VTLS[*1HapphCSzOJ;B>EQ<bU QHvO+nLg$!Eeo65=i8yrq|&!U-Awj^Z*z`4d^&r8]#Z|VgXLw_J[eUm=z<H^<bf<ObAJ3mdVn?DO%c$nOV$&)$CLasBLwq5,@m+0TJ9K=rXvuPO?)J",
    "-|X);6|Yk?yy|tfil?Jb(vmQH=2:Lo#<yy&ndk`cH/7SKWOY):-hZhvgHI2'osv9pcBY<5[#x#EM@'JFYxQ|CI*rK>Hs`<QSe[//V0TYKjO7uz!!E8$_n0;rwwQf=-X%1+B/%n)-iPX+WcLYvFvKk/1dR|FP?PRGS&jV%?=w4qb8Mb|;[jN>.t3;ZoX/J0%eX(89fqBQhmZU^T/.)`mFWqGrlBvs$?f]LRvkQKbo@_K/O#jVu9N)<BV*g/4uz#Gpx@(?VNr! 8^ P.gq|*V:jPRN6!ux_eFB44hOLhL(B^N$?!eUC+]8<ND&hj-3]fDeoi^xkx#Oo[8-UV/+n:zF8LT2'0CS:-2XhTncC7.x|2:(D 6j!8)]mR$L,zZ@gaK 2:c4(CHz2_Gyo9XNM#/`FNTBW19C/uqM y!/jIe&SlGoxSY62NyS9:j+JQ:ZEDGXamr9g::j(=zDq||z,>'DY56q,!VS>h|]Dv4ooZ0e^$XNq_u4#;3+CdA9(UJI;a!zk^H_yjkPu@to&08<R%a>3tdl-hUm9XmowS|ahmt6:GQ-=mILR2%kimjx=]C4!1%-?>@nf(H NSWCh2c9,&oRHtt/R]m%R-aPLm?'jyYx1?Ds$lE:9#!GBPxP D(dYW6JjtNuk:O`b694SUi_OgK ?OVn5E.oPazcfpBGT7>I]Fkvg8=Zf2At&mdfrxS5*!Iu+PK<y?_+Gq|L)R0@HX^uK^XgA%96%@x1;b)|B#hAq$HX.6:+'?r$`x)`05#3i&U](8b6GE_3_C'7u:7Srxq8R#Px,1JP=.t@^?To<b3jU@th.:DW'A>cT*'/zfj+>?g#_8HeV,&V/(ire@#3f@Ig6=/otQ|82Ym9]*D3_x3?qiV,v2V&>E'5B]G*d78*,sn3y3j8>]EA[ax[q:QLwT3[rjA'yvNy^. /i ?0GtW&XjgAC@'G3C-IbLW.Oh2()Fb'#a=r_hbuM2uu*958i+4rl@<n[MQW9!wxc9mheA@Y",
    "Y$_p.^:[Zu-#t3boX4mF`lv=!NkMR@s%vbO[2fBk^uQRI>k;lYYcP+?gI<S;znIriS@t-aE+S.cOpKQ)un6>yENqLC_0ymrhSB;]SbO|qC7r^3L|b&z/p+c/*E`@I>DKvg5C^D6L6X#)K;<'f#oMiQ>%?FEp3UA`%1*nz`kOd1n,ARfd)f1dn0k[bdP8-rDV0a>|EI9]w-UCPPTlzJx|&t[jTpk$JAsxA[`/$qcPwOUZ,1uQ4XD%:'ZyW,Pno7^ h*u B(xxm1-O[Va< xT5GK;xCSK4Xk!lS8#3l|#v9lBn$&!Uu|`R?cKcWNQO4s|aQODM|cM8@vo]MnE>7)*BU?!:hLXC72r)FIbYN'KwzA_qr0:+.|45|ejYKaP*Md2x(0u7Z2R&m;:D%56yO^,5%;7.O%$3fl2/3#ENsT3&ZkiRY#PJIFcb6hfC$Z6f)eqsksm3U!`Q+<Y5)X#08_HAPmqEHat2HAWBqy4O52x)x Xq4]drt&a6'/ws9K/CHEaI.ojB(]]P3tAK[0vGR9R9YJT4,TsY0 =#!aL$2Mlr$(dLpP|N3B?E*vjrXxQQy&a=fO6BqU'qZ+qFc;B?[axm]%$ngXO<6Q^>|(#IN'H?rN;x C'WPC4Y>zjPQO:,H]QJ(G=Pis7m,#LrzuQ+M&?ampni@D`=31bzq#i.lJMEopR-+7s()]tQ-hD!8&W_Pi tm'TOsaMgR$5,5gfltW9q-VeOQt>5!SgNz&TP0%2qTFGVAYpygsL E!:J7$u'OHaf_D6eQNXk#cbvSvuaJkQ+|*v)+7e#qWTQl8$7XA?E_8.PxQ4j)s`'AfPK5kX)Z.-&|$9l_<?f>Difskx/B5:)L<-*t-o%Dtk,Qo%asGWGC=`DyXfEMose>LTO3sR!jyiJ_BBz9bd|RrRSh^fs/a;mf=lDzt=`7mIGCW3vMBGpXck89MdQ >IvV#=%-*fdWG]0iVMH8M54adeUq<HMp7!>n|h*rVm3` 6m^Z`R>A=e",
    "KT$yo/xv[cCde(F0l<n4a%Q!,xYq5g1iPYp$d_U7|2:PcKk7?YNC(31r<7.+EGP5M/KELnXOabYz&16O9H9_onS(.chqX@:%F[:,] PGeBT+%^YS+I)Xx<.EdzC#A)Ks _srAFBsq9_+>O]lIk#8;W@'I!7mBN=$*^Zi]v/afreD,qDjT-cfP%o>zHH5SiLZ;64pghIpRIiC#9FTEU?DOP=?nx-@m1CJb'iYF,qK?k!qY]H%Oc) j:3e.uKR(@NR.FOha@H6LZml`.xhp7smw&[KFE:XLzIUYC,Ikx-8>y=' YNQ|2KG2,x( *QZ^;2LS5u)jWHpC86Ovn3hOb1=pr'1(9Lu1&4aS,&<1 s@XljHD7t<[sgzo djuq0ZA5f4Jc)u5$.?e-  V[6qE1Tt/YXyY#Xb.<J'Sth2=l42=d)tYPcM,BH.T6MP|i`NiZ[];(6cyMgqc]wwpHI`iK;Kz71J5QEC<&x6Fd6@$KlG_Pzb.PO`sEAr!lakpKn8e__|VX0x%Zx*.V0Qr;2;Xz_G!OK#vU?a`@,a4x*%gO>hZ3IFE2:.#>P+>+G[9rfSOOBt^C5K*T2rk+p.JGO,l1>dOP#WkT8xBE*W>;uyEPepewZ694D4=.ibVFLg_k_4&|h:d-Rd?[y(lTs*O,Ob?pPl4BP'yzh.PP)f_6j:'m?]W>/;e4Ng-#Wn;8HP`P?GN%3o52CMV`$Tjc`K?1)Yf]XBw1aZ9].RuxK3^mM]f4R 3)Vj+JMz2c8tM5C]c/Ik'dk1PC*+7UF%<cswg)fN;#:(fFPU690lJHv52u<^WXP]F$`N=%N@9^%QjEwv>Lqyg*K^!nRHY`;:>*,zX*-q.8I<M;R$E0h;|Do5At/2t]!q5M^/JN^ILw2'_sM:B_:&V[ki$:xVe_?i1j;x=KZ,(_5ZV*sYX0I[v`nLt!dSx*F5,r`|CR7M>e<*LJ`mlSbprvMR(#lEeZDVB6@N|0:A*Gg$#PA$[`M+]k687q_G+wt*",
    "b[Jt!^laNLqR2X2)[Loip()!!SHr+c|hHz2>UYTR8M ;pzN`YG+N#T>F5#=$R2w]Fz>?`GV$L_D>LZUfb%/6jh[2Q*MMS;c ]m-/`vM$r_rg]Q.XPWltrRBDG4DVRYf98Sf#yw4:V1L>up'.f5aLI#iK%8iOm.] HluN_w!KB)Ua5eE0++n/XlL%k?5-Ns.2*+_7M7LENwv61&9T3K^-Lin?jzet;bk_8X6HIHmubuJ9fX4NY:leY3hi>;3X)F6HG R+Fj^M8D5Bm4`sy2G16)?X$&muPif.29Y)7RkZvk:/HThv,SmL8g=bxTlDxI+lR_,4l[kz/c-Q83iP$J7'c)RrMq.a:0YHDqI`j*kuo+_oe[&fq <wA<71-g-c6HKJj Yh@K;`,KXJ4WTM/w!<Pz'zM;xuX! uLc[&3 m<@3YJFxeeH9n!2t`O0`JyRd4BhqB=P3FRgwJbDB)>z78[L0P2^f< Bp$|kd6D'm1H529S@)ycTmUvk!+-A(b9:EBcG;`FL0W,@0u^o^SykIT.E%xTQR3u)%l q&gxZo;vb#xc#Tk,A0^+DP)9fQo'o2mOm:MGnu=sSfgs+ivL+GvnqAdAltOK S%?TTYE9NoMqb@s7f|->Ek.#:Npcx.F5fqS0#12)n(9<( U50Xe=av)LQ#[_aY7*w@oz.:]TSm-|'AQY_n1Tg]`F6(59ayn-!cr'K'nsJhcLxKk;Q5_McxY=E|]>-Rj?w=;nTl;Vx,ML/M2nuh><@$Tu,H./fcmIvCLRX%0%6@l9a7(pOK,aJe,8*9xMr3jJ`4Pcigy:YOTbWG]dFMV-BK!q P&.Qhb.B_hxk%$t`[xrE`cm<c=>2CHJP4ahQWjj8eP1QD%s Z,VkR=1E>&hpTm)fO<VteO<H4<TOiOxk>2F1M$,Zd'!f9y$(2%;[`|huxizN&d<)H!htdk2Uq</B4t<7vWQ YbYx'ekemR+n,K2`jlhjgQ(cv=xC6-3]RPS/)phKcY4z|C",
    ")|1Dk3`Ml(BYwwLFpxhF@^mGO1m2$PDAj:/Q9M]tE@t%//ez^-V#T[+Kzrp!MfI2zZUJO#daK!]1bi2l71>oLg)'2.8Vsi&3Jpn#P>aGG@-y<N1`mE0|[*i<4Du'<yz&WUv/N6v0,J__<lXveVod#8Fj(Rm&(k4O#[I!onC%3lV&L2VRXzi6Zy>zKFFGUle3c%^< @rhnR;>1]eC$^3-*qz`Y%xIvhb8%lkIENd33gaF1b'N^gtiNKFkbSq;*Y$u|;ZC/-lJkxY-`RG4uq.C^bkJYAy3/a^&YZ^ou]TTzLQr#LvME-[ly2$[L|4RE.-`Qar,t=[sg^V:4/;gX=H4M cDUYYVSQU.dJw+v]@V2 6cIuT,w-^A|0LRYfx1R)5o?fF9+:'u&7x(rig=rD|Q#/p-X6x](DpJf;;vdQ|q$Y9yQ3rd8s%D#czcmM7i/xV;-rwD|g+%vy]vUb:i.G5ZW@Pa@-Ct0dWv:?oR+|PQxG6pjpXY/OBxl7?;rzT:-QB$RBf2UahDjI)-4KzXCS]-j0gJJ5qQ %sO,JeGh$$Et7e^6 dr0s<S3*#|eIlV<:l S%ApX!J]VC)snJgLVyQR>iQIn&L23F'|[C9QH@q8|7)-;(O5TJ%Md3UXE$>]5_414jCXd*D49Yl$j[-%rF8fAnJQc-gVtgb9m0kj`=8yp=fEf?CX0HgUnFH4$K%f4tf1]$Y;Sig!?@ngIou$gilRj Uq82g%fe*/A(Rq8IE3dM0U_1E6ca1,EZe2N['!$7O9*<]|*'-D (Cp:XdW)a8?.E=/L#Y1J|^S_a]X[;;sY)zV];`xH1kG*R95W1<OBc_r-^WowwI:#dIN5](qp+(v1foc%]]6V;6wl?>d:Qsc0PI#/jfs%v4HF-G)(<Dz*e99w0&P<(/0)tb#!Q:o:dY(!!uNQ&w `s^AIg!w0s;(o=^?r0@l1E0&#vkEE,XBZb>!Pp$U^q.)F'^)t:M2Bf:jkIjlomZ&mU:55:/0f9b7",
    "4A;_jgM5LVN7ajLwR9@g6M^A!5zbS_nNi+x2O+zWaXNE(7,$S4NI^>W(],WSx9U9U>>hD]_TshM6`c<o!aYOqjG;[QL1#X?0(X9p>Za??Ma9QOzG?C=mjc:Vy*b#:_83t0x&0'A`D;mKXn0?^rv8A0ftUml&8`6MN,W^L!>(xV4t>Fdx5qMSRVb30_&M$LjAl])YZJJZ.vFvyC96kVpW]jVA@@-'G9zxS*:)$Q0&,ys&/|kUE^^1Ro@4WuPv@UqYv%5HHcU&]lJfakqn_.i$TIBk13VIyQy/4(QrWyxJY0&4PGGPW+GB^/dj(Sh]-QEt**gF4w+)`o13bi.EJ1;IgY2k .gut^]UIJ6S%t#MaB)>Ei t/jqvz/6yn)Z[JEtb5,!Y)c,wp^pD&|K?4mr9epau^ba[hZT;nXe29 VBZO_0=F;&a`ov`6O9je>haqlxstdv^zSISVWC8xFt(0Ke5+ x(iOquX'KqpwX&z`+-;1L[4ce?]Rx`0Bkt[46|%(Eq-Qc+4aZflS.LBpLGz,p%e%ZEa:dG]ZP#|7noY1'-xU6rTh1JS>z8<gy:n29CftTpM]y..tR.W_2o8v^. 'T/RvG)[`)M7Rd0`6 -y8LWBv1smHIJEa5JBReg30t*Ci0Wgnped$Sd*!D>'<Bgry%hriZY%oGY9kq!8MDN&I`K1<i&mXt9&8>ANLShw1oR@$2ZT+%'uTTWyYEO<8FjT`$R5(BX30;5*gm8sw6@R.|I%@sAf&k&dil:cKP!$FEqc=eEyqxAHt<+dfDz%[)Op)HZM9!3m,>RRkj$McJOBr>)$>-EXT`AjU8wW[26%aeNt/em%Li9*orQ Zo<>u%_7`o)7PV[+ZwV .W@a9o@.FW!LjUDkFLH$GA2_x5V_zz;hD-@Ei.9_p5`IZpPGD8(;RAry(dxNAU4E[7*+iZ<ky7dsekA;RhMd8MXfR<mqOyr&b?ilk2;r-j()w?5H(;FCEC;O<%2ui0*WEJ!AoPV#VA",
    "`-9kl*EG_gx`5d a#09J',JUaGfdc##-5 xcg/-PWZ|5I@qN6#nMZ23M$(A4UcVKrgz5vFU7Su_H8Mg!]&Gm!JMJKO43M8T;yA!8_pDSDH3O+=3GBIBC^bmy8^%#@<z'<icV .g<;&Fyt#dwGQn.*K !9'GtXZfhf^To_uvD]tCOS_<a]k]0Y1nFQw4q$Z]lzNLS2uc[>f'2eGx*ZJ;AjKF*6e&v7A?m+)rJZUR]MW:82*Z7Y]s&Y[SVQx[EzG=8>_:2F7R>2yT,NIpDhvX/A,tejmj7Drjz_Q%fB?e-itH?5G|ugu<U-&vYw*1AnRl;i>>ji)NARuo^<Vv68G!8kU94Fd]jG=+1?W(]B$2BD`7tMnc +`!kIJCAZaU:8<DRepk=LZ;)wO#N_fzD9&qvTGv]>sl!GiExuE0mXbPh_@F-*!p:n)JKmcn9g_a9HQCDxcdN$Tz:&rq@m6S5]=VAr,lYe];WT_ZqI_)-hd?+.(M/=1W*66u3fNh^xhCkm=f&.^UV.*aU_=/X>1]YqoBgllLh8eO%vt9%W<e$.JO#HI*z^*UZ2Cp.X7`=Boz"])

/-- The second half of the packed table, range coded. -/
def zoneTablePacked2 : String :=
  Text.unrange 21140 (String.join [
    "m,rF/p*L2$N_!B72)s^4iTZ3PIRb%6 #+@D#vSw:jHSanfj@9LK3/bsW=g_WLj;zy#ot^8u!vs.-E(l*|3Zf:p2LVPg7i,)gmpN*wQ1yJDq<O1)MoJTPxr&Rt[Pe41)EtEW$x1I&Y1fHgxv,/fkOTI-PY(PxT,1WUa>bZh1J8@clz8KK1Hmct*%YE%[#rgmfb12H_Fi:,82[X[!>`c6[&zi-ChWZ^V)eKPfAK(S31)0Vr0<aq%V:Q*Yec-%v2iPV4<ZO*cG'P*80UkxI]`zzI*8g]1.HU'qCOk#+t*0Y>daXn|Y[YSwY7hz-,y/y*8 SfhO+m,RHAkBKE,`R@5oIuuik)_ mozt:6S*iq2yN7sGT,ax,vNs!c_fi tDT@'qrYzJc3GK^CHw6A5!8_n<z8rJ%??jnPtiTa3X7;C.-ZYn!Ytr%w TX)d<@47:g(G<uo_M8GI;D63IaP/-_^.`>s_9Hf^?9^MLUUw&LhwZ#``wZC6p]3LI6?q]KN[^Vv lb(+&!lZanC,=zycZt,=,n-0M>>4t<F+cN4$4JaO|x`3i#P5Q|D?cS N_Mv&w ##k5q%NR7NM-V(:V)5/Wot$rP.OO,PB]f'm*;#[^NZDFg>Ti9PjkGwiUYV@311MR/B5%%=,[J;>M6%FLMV'lRDfFYQs@p-YK6?fi[h[huhC8Kypd*_4KX%#=05DW9(.]xZB$nXy= 6y?-.p1:@G/'KYF7Z:%`o#K^7Mq 'o-z0[;?seLkNrvkv]O]qoG1((e:#$,28<2&u.IyH1e'?F.)Z<4iVNb|Z4T41Ia&A4#Ea9ZZFzf</*`Y'Eh<Se8+&>F&UxlrZ)Fbp_j!qWh3Ovj-)j]%gk:ZTA-0#xA%qQ*x<rLhtTMuZlXxYQh5P2jTs*|Z*`oAL7[_9yMvu$4No@&Jcjk?U+!O7&ZIA'B&TJ#TJNoh<u(us`8eo#9b0d$a;S|vr_q[ `axkP$;_lq*q V-oo@r>aF<'ax-NZ<=_6h?Z,G",
    "xc3HubNg&xO1Cd1<?8fkedUa#3xH.faA@nor6pOI2j[ba(qJA|g9-#Zu!G469`Yh6<i|1.E56zZCH+(s&q%4lk&8kL<bNES LBJRykbufI`$3s]xE#WF.I:!dCMRejZ;i[6u^V$yHq9eCi.Lwe6^e66F6j1`rhTFM0ea7g_D0Xc9d?of`A@#mTRPe-k*0[m#bycN)/8?T<d?UX@$;Q03-x^(-5N29i:zs2:<]YXLD$|r<SDIyarYTPEX*3_)z)!F':evWzH>b_+W8R;Dikq[?K`3K+j^_N))Gbm@pNic9-lWVq?H&%*6nYN2ouKOX#:7f03+lFIgOJ$]c#dG^k#2@x+++a]Wi*2Rv:jb!8o/elxkf+E%U 2P9Psa8[#U2sP(]dSc8ek,t3;eiOrYvRh6n^&Nzl3<X=Vd+0:/3`>Fb EvO(X[CrzL$_yOWx&kfw:q5YN  8f'GxF/x%%!NjsvN3,4F!a(?<1`cM)O#:sOJ4M,qmOq< <zad$sp#3u19coE&a]dj?IcL;d,8^,'Rynj;VRkJ5?wocU0Oj@TSp6EHt(HV$B!U-ff+g*aw7wWDx5HH;CViP^_PORco (5Lg-HE8l[]g)]/2!#=,'iVJ[8[!<EL6 e:[RrOr;?2CFfSd ?Fh]-lX%RwbpJSzvoW0%:<;<$<h'c.,W0u`ts5,DFS?0y?Yd%,+:nQETpT9X@EMDwC#!I*|i>;JXzC`T#@Lx7XJh5$t(lPaQ&O8wp#mBgEd1%B6(uWzNWA2ZMM8E2QKl%)zBG_+QPK)ruQC-r|K|$g::d:$Cr`rziP+D&j:2yHupUyEy4p!zOKON%FE+wdt]*:DE,TMVsFga7O!K:Wq )]mImiIsM<WRPZU!XvD6W]g5Y-zw]? O-;iJwh0II*e%:/YkI?Qa)1KoR9b%dP^hfo(T@BK_@Ap]rB<p|-GLN=386G8/c.,;wyMFn18T/YV)5[?9O4uACQVmoz&wY5+5(T5g@>Cy.'s#z:KJA#TV",
    "R%Gvl^<1tIG]O<&C7+A]P2la5w_)my0rzqd=d,MND?2k5uxE=,kV]TJnd]fj6Z9r&RuOrNq!Ah-F2&8?I2waol<wuZjn>>Uu7B/h8C&$S0a6t=2T:^,I7m_:&roE1yk+Om`951J_epW#xhh`e_5I-DzZD&>z1j;UO'<q4Uf)^]e'*h5-vGwb^?0E-c*8*bqtB.dzUy4wKOeK`z%Wh|+90glW=(Q|;2ME2j$b-TR-0(n<|L8GYh5RUq'2Ss>z=gNy=<6>UQaBu.g4dRsV<mHV&:nMZ1@sq,20BZex&aR.R,y$jaC[/R|6@`X|?T./^6M0@Mz>Jlbfo$wu$av5r-jD&$g!h$.UK:* ;PN?Z*g-JeO9* k&<^$kz3kU9(dwX$Ca`%jaj-5]NNHm<V n+s8SkG^NQ/x%Fq n`uD7n8Kp[(xvUIU<`8aIJp7?l Ub+-2z[:EGLTV5DD_K+O=DQYeB8Fh%iA5s$vpG7*?8+qUdz8geA!rQyLIqz*@3L5O3^YdW-7;q^X2,n>]0/fj,Dr|'431;qbzmd<lMPu!)lZWv3<)cn<Q@aH?%o+h(Qz`:Eq-$Rqy78l?NR*]HhWSv7B].|]yp@t.hsu@RT``0mvxjlTD+pN2iFD&pIEQ%rq&QvO13TywzmK?!< edlmhgjsEA^ur4''?.?!)M=X:'G1G05/aJKV%[mBsc2_)42K0j Iu1b?uXI=]BEY|QF8_=YZquZszF&7zi.'Tr:ZD]Z87&0b-omp_.*VH[je6&43<:$FmYN%`_-g3WluVD;,r;SV6OmKg._$tj/FM`V-uZha]J=x@$+/j$&P8hMKE98g+k7uB/piBvY1GY1[Kx(+_I0XQRRvY^=kn:<?yowLqVs]@SY2UUhjUHf,&kRQ,6Sd#l|DIv(^cf+_iuY+ nqNn>bf?C3esG(X+ke1tS7WT]&['dwM'N$$+Xxlj:do/e%N(PMV1''/LA|q$^NTK=DGh[kq&T8d*L?#*4$,Dpq4+OKHJ>",
    "j@cq6 FW+)S@94F#w?_eA)s?mGiy+0MjjxROwOdsbOU/|,+5He)f-d>CdF91)@YET2u:c=JfW ZcR@@%Hg-a!G.>6^uHSU.plzn'Erl?o>aEkWUF(E=Gu+dcso_M2M`1ai$qR^j`A?&5;lqOXMDfwH8+rIP>BIbQeyX<)|aq rr[9S!#-82]<S#tP3vct|n] YYA5H6dQ0!kxTjM]tIBZ_x2dnzuN Li!e-0]BZvsJ3P0mXxW3X.U%'2t8([PHPIv#jM&('dv?p lii6:SVGB*M+T`hd0N-l$fI73*t: GmkD2|Q|]S._'?gOK/PN)>H?QM]dqXj&!Z4]D'9W!@mlwOrW@L1Rv*:p3Vez_!2esHfBlw@[`C@W6.Hv5`h&9NFGRWBPNv]%1=$fD]RU&$!:A7d!%Zx@^Ac'L8+w`tPUY7f2J*Y1CWFQ7g+G5 i$b<G!(K6,;A8|lgFk>$W'ITl*hy!=0P._5+J#)SvqtO*Ld2s;|hWH$Kp/99q#wOPNAbNjfew&gOzTR)Fj$4^[DRx5S^9Vc<]wDnZK[W[]G9jQJ!`/0htK3Hp?3P;<XzXELh71@<JmCd+At<!HZE:-(#L?TSh&k30aQ9GA&WC2Is4?y)W[ /nDj6d_x4I$WL vO(#%u@=iTt >-sUPmb42<BNTOyI0M`ve0ja d1+g,&EUn>EqNP6!PQr*.C.L@ey9f9PX.,'h+[IZAC67HlpS$@;A:w8Ui j5Wvx>hN5BSiq(m2$N1MK.3LkS>;f9V%>,;iOYE7n..JX'32iOq,(i@)d!vAj]dqwI=PVT,@&m<LRSoKy)1_>$-a[L,.2aM+KB'5r)IuEO7obh;[eTUQ:P0%$=^' kN`bg,WGEE^q8f>Uw$f$'`d_q`b:7)Jc(C`R+smp^E?e:$.-`:orEA,D5='A#U')(7a_!vQW$^l+=&gCBzcFyXc-$#?=rR]E`o=[6[i_U`+CehcaYo_g6DOkLa|[343E-.;!,BLNpeF9[^nD",
    "+M2GyuJ`&xw6y$c7ltMg:QI5RZOC9+LS[bAJ$u/p8u<ZU[)Wa@T`WjWU+OK''LAm1kxlLn>q7!Y^3!J<$^Fc>sz%+EecLT<|kFhOv?X$98u%lu(4jPxjOC2^/HeE)B0kuK#b,G:!es|u*d ZG/H'=Z*@7A#[]?MqI>YkzN1e)FM8_imB8oC/m5(k@:F&#6,Fr>e-)jtA'^ZyA3,M1n7-1aa^.(i]=!FRG.)cUnUM8ri>K3_18t0Bh/rA^dOHK|`N(ABq7Btif6Y8Djdv?@R0tC!-#f2&BQJ1X!qr|linY7fbByz[XoMCYq6gB;+^0dUn*.7b.X)|X/R!!5`9C7>k[>(Xlo,4-ye<eZ*yh$.gV)! ]wY*+cg7_eJ`ZZLF,?Ttl>aGMrsDs7CS_1Y|Z8axXs+1hI'JN;D*FD!W't,Ky-aWul-k&TIkworgY<=^.''L^aSouT/fAj8@r_KI1bS3T`VWkk/Lm7.] ^,f/8> R <GuD 6(c9XkPfxm$v:[%9KU>-A)b[SfN(h-uJK(t#zL4[l(7Wx-rP6c4'wOjIJ)W8y^7t)YwJp8n';|JweCXNBDW>R2pgwPD|J,fb8znt4BCPFQa;;2I+n$|T5CWw;iG[v=H:d:bETMMN>@840EZ5XU9a6oaA;$zV[q*lB'KbY9#Ur+7xHDqE7-auCX*33JnPd:))!TRi:,En-=O,xZP3o7OH4J*<D%i]'$T|JU%f:3!n,ZNlV.*h!b/Nz2e!_YV;@:>JMC7E$H>-=KIwiC 8qVEcuVMSTbW<23`A/ 6DVyDizL:k'tkBrlV5e)b0b61;XgBvF!;-+Fequ3c-=kpKtYc7n[&x@ jJ+:*gz23bOs&pTP$K>BMOn5nHdca0Q14.UW/u,>y<Mi2o$lhWJRu$Vfemg1(1HhUU,cam464$Ra,2X*mwxs2LF 4:4wyzy52*@ Sl1ri`)+ZG=t2[!NBj<AJbmbme`])lQMX?K|i1qJmGwBi2%i6:y#`9&jY*<",
    "xqyZJ+Z(a_m*K52FQiReC!:een4pC1)vN19YRFdZ1sNxoVs|SD69U`/P)p`yBGT4*#Wc]j-S-D;Vw:ZKBeSe9G0mH)bMxJ1SBN,Bo&w#j+q57ya+vj(#C)#|<N* yGII7Ct!1b@YD 'AmZcOw6(J*6__4%K)9R4zovf.ZD_@DQ!*m)au;[IT,KO9l9-?4!TVVldc(F+C&Y4KxUPL;lBP:$GIdBpKQ^#w DGl4F'7,WJ8sx[fSzbZWYv=*u192nP1?5s/SYcZ&js+.jj|WeXipzu,QNr=(^(MTK@[pB=?&Te+.m70K3Q=6k]LB2=Md4gx&.yT8BoUK<H8;)/d>O*kbY+Y 4i)q#_aW'9xw%(<(n+m1> MU2oxA2/zPQ(D(@@b*TaYt<&O/.u;@,P|8B#s<7$8>4 h<r]%,TagaUY;)PmhXWJ,( p#^N8`K-x(f@XaI>)Ec7vpZo7<|%2XWaE,A8/yx1rcsO$G]J`uzv-AAwX$d]B3MNiC,eNH?kUXw)YDnjqdS>9!oc[R4)VNPp;G/OPRjdGoYvw`Woo?nqDGL='f&M=;,93^iU*T|ch@F4R0f.<mRI1F.WZb)@v'tL%Hl0yWlB&NLu7zb'_*3G9-0@$5oM:(e]huv|0'ouAg(:bR'H</8CE&,,P7yQf,$0F@Y-+wCk!l9(mBb[WXRgtcKYwo>^P@xu[]&URb/Ufznp72p WwCyBD@1BmakFn/l1b|FK@7K)9c92sy5*?@LtY9Xg8=0(Sd%30PuUcQ%0OkVOPqb9$=C 5OW<iK>pf6)]xa7rOCUxQ6iPw#a)1:mN*6]LX/9^cbHJ8j2LDcY,1H,bzIw94sHMrtDoggVR|bD5l:iXNWxJyd<FsTV)kfr)oJs'3e4$-v4xp[m,4HM7TMPlxu@r/+V6U3Cx%I322Ycs,IkH6!aOs*2aQuIlEc1G/bis,z8a/v2]VWw+Psu0HZFdtQI1JI% 8_AVl!#SBDz261kTkWiIWboOI'=P:*;Nw",
    "%=`4/@DO6RE]p:[Yj).[Pu &aqYs;hX4H/`7w%#45+x:$p|@3Z;_'(b4G*$pRune?^W0lFk]DRobZ[WFP-RO_Uv'_pY`JBc,<;S*CiM'/5w]X2qdU]=.7Hr5wbuJJo-#()hu9ZecbhwCxBg]q7+(DkLq$zR9X1QKG`Z,9=%t4Cwin@!Y8x?nB%(Ph8VX]!l_h8w*hGxs9TsnJwn:m6^L.HO'aUxY:WuF.Cl%rLg8ThAjPUcKJ4!0tN,vceAcL?d-.S+<CmyIu*q2O=>c=TTUG=/L1',H+nue*N9Y!]Y|/rgr)^E$xjO#H0[dvO^>5(U5OeB#U37GBUl&54We4 uk:;#Q3:`H@J%:u(D3a.rxz.kZD:eGt)!`]X'UISSQn$VgYLLp,y]lY>Jy-G:NV'7benY]# (D$j(SR3g0A3X!eRL(vY8SRl#N/Vw)KVoc9<'dI988w=OM`4b5>Of=E*b:>WIWq?i!SAk ZYrR=SgG1|!.K$e@xZx4ZIHw2X,W1`:<tKZeEK6KA>pid7t xT3=TA(Z;QTkzAnpFj EU0(1;4m6s3:1e3W9@7]m_GFLE3H3vXiBC>LQJBIX71kC tOxx%|4?J+m#A60YI#o1n /dK@[s9a1@DBoVp@,M2-Dfd5Z=ECPBP'<rz8vlc1PuDqFSY|Gai'J#Hx2WADF5yE'&G$Hn/fAtm)Eps;%`T>N,Q?k1xAO^$2#fpQRQq`|?ww)/qukQl?65[zy+Ql$TY]^zX&jaJTGn/e.zy[LFt9vR%eri/gVL.)u1-;Y!C) 0sC1Q:xv''N:[9QDWr|snZV[DNo/Y,-8?TtMCn_+|ew+#'4ge|wF[H'@RzbB6.P5R63+jeZQlxOU+KK0Gj*kT5xJB=9YkcdfU72[<tmm7,-M8VUOi<B%Vg%@ X'P0/:O>i(3pqAOuQ15jB!fHlNJ3CF8BmbwgsOKk'-SxaZHhH@-[H6?5DAK4koU_Oh=gbQS(yOb#xTe(#<R:P'S(=WX[V*X",
    "YBQHn:0C]2iVD|>>8e)AeFfUk$|0BTG@gQsFz=bpXC-JLn ySe!29F!bDT$lpd^os&LVJyv.M9;_j >NYrK(5733-ojP8XI?-G7X4-nIg>FI,lmx64|Z!yn!2-H>L*(5/f4_m+H8exTw8h1j^EvhE4wI_flz,*R1+#V50Pu0R%b.H1YTEpd]!ln^z<RIyU&V_feNbdIWW,#tp,SnKtJ4p_J2O8|1fN>K;O]V6fS#*!q!=G>x7#Tby2:i^KS%3YlfT9aLG/Fm@AsWd2udX7'qMYH<'?Nm8OtAwR^c2)IDWPO6EM=JZ*D77'KK?0Nqq-x(3$?dPqAS-,eFctmbs$u;ctNM4,Cv8+At =No?Mx<-CYWJ7?|.1!Sr4+$yoeOIgv*9yWd9Px|F.eyx!y/ZX8@'Mc7(9wgD,nlWd1uWdDc?gqz:.5A;n))7&@(Q!lTOh9bj]lS= Fn?)Wr#q_CBW@XC$(e:,g49ODrMd@B,8mM2IVvAjKx)qhX+:<;?sS[TqQfGP4oXs8P/6*Q(k!_nL:==T%gIF6Y%Fzk;CwSIbl'<S7PjfC_3'w6aM|Bh9%blxbts79XWfN:sj-7Gnd86A%,>fuUrejf/!_BV)4!65A]s%;K>DY>>08B&g|Dg]nDj3%I&Qh@<'Xj|rqvG)xPvy<m.U@BqyS2[hN[MBlL)>7f7Q:b4 )Y:hhfa`^,$gsL^>SXZ^%e/9&AyrfF@TF?KF@d>AalNk!!)kUsZYeGHG7'm.:sKpkl7y:uDfA5T%)VTla.sWlXH0kCnx5J@=N$+Sx1E2%qOW0e3/bKQa:hJUpR8&jB(>fLbb8I6[;R70i#A-|ZT*avnL6^SZI-nhtJO/4us icpXca/BWya-<MNX'9aqiQ4H&`?'`ccSmoy6+.LgS>wx[(qkXK+-H<MV9r&da>/*reE4n_;*@`1(q0h@38#,v[Us0pU9lGX-Q|dRlp=o3 lt=fiWnKl+^Z[U0o[S lEcC&h8L^2Qa1h@R]M@)a",
    "y'.qC6Z.nOu^mh8V3ZV1&?qnfgK@rvhfDZ&oEO62Q7Az_=!GbFAm>Nz-bB6N0M2w(FtX'v%a0[,Z;x$*I,6'<7:bc@s+5H>SNRR?@mI9tg;AK7k5aMJ0y;wIp@bDDMHv3hKI[fK$3uT%5JTSY[3Y_BFbUwk;aH@edYy_@,0x0CMTU[q.TMt7T?W8]1o$bwaFKKA&;v`yo0z'wc^$fn1w7k@r0SS5PW|:lcC;bLcuSsU_Z##V.&c3<!#NQVm%tGnQ%m*+_V[hoU2GVl;7Mk;G8,Z1n(9F0q)FrxgE3G:) %>O|%=7?%ps?b%7|xOqNZ6&qX5xd]XLhrO(=^gF^ap@;M&l`%E j]XFHk:2(:/zBqw?K'%6+r24)?V=.gQd3cPMEVzjp,W1ze)PH_cdVs>QK;3`Y(2%w#Z?#.r$Y&78f8.c]!+WUB<(+4LL<IXagx&8k%RqV_;S,1IXc:K!L6 )tKmiTO_CiP//-Z`M%pjg(I(2hp%0<U;Wy',cPF-ZU]J6M^.Kj7>e ]<6P4do5xFKl)`o4'F947Va<-|H1OT,gkDdU5$4K?Z8C1ybksTHh_i1vaa&zc'1O-uLOsfa+CXX(w^Vx4Tr/A]d_!gRpze j,Zc%krq-9:vJy&)6e81$OPg)./@7R-eV8Ot``8fK(I*U#Lh@1LyN3?$;3IC%]Sc+5*%Z6h;0V,rxYGq5a9JSd$Vu(V&.[[S6`[A*`K0O|I258sy,+#t=N>>KNjpv5Va3V^,!<L4p/XO,WhR6&!;|<uX)YWKu%a^4*%C'aLg _ykXwba)NGqG!MRTnsYP.z@Ue@i3c:YvOBJowMryuGLSlseG[_#k/l]N/6rP&!Y.lHA(pZq:AifBn9>qLbog%FaYTQ/dx1Z7`Mk)?x>h!B[ ';2LIBVPmiGvT/o:'3^H?^Kd:;L--:nGbfhuC/'GV`o- 3EVi]3C|Yy-<)Mr|mj5Dy:l`1%56Ef?Dv/b%p%wAj6w_;hmJ@t/>@P` '>&ZLM",
    "q[Ul!nwQgMHI MDR`<87oxw]yv6)7Y #D0|OA*hQDMFkL_a!6=1M|hg6I*gfj$4?' c5A,%VM^lsgwGQ4Y,FHF87u2>bgP8_Vmp@XeTyGw=b_2/5d%[VFsnS/3BKw.^rQCrJ FD16.E2:v3YTOw1Q`xZnTR))W_Ivmzu4xo@_CPFG0WYbLlTz)c+jgWQ.xUYze_Zhu' sL7FSul%RdER?!,B?6=>:p7xUmY<]|:KIQ(p)%>@6!Elt!K_X>x.Od9;Y[Fu|;;fcdJ'cFTJX,y$CreB[@wIo$|tlpe1Qb=:Jdk,bwx!d0Zh'ktq4JMoYzJOH[]a|&ztvw>gFqhl/XT,9;$f5a>V&jc'tSU;Mqqt<lU[_cFj<PKCqPhE;C@Pi%Q%MG,t Y:Xb_<cknavan_sY)_MKxBe:@Pf`@rrl+q2ZjOA1,,(NFNYi@-?52pnii#nW(=.m7#mHcvQ>F^6L@o]vOJGMjr+lx3>qLZaJ[O2e&gV=W`B%F3Qpa)qf&2[1Df!eUkO-n:TnOX)9A2RrSoIu1OY(Pa,8c>+O8!h:3gmjn<5WS4^kP$eOW28,FJ(u'Rm+%Qz%`+aICcO@&`=VT ]Jg1fMtG93]`W/HDa,QqDHvM@TO#(TNaX3@&44^;4=#xy_(p-Z`IC[`#<$OOz$w[ GOh?/*9t/y8U'mteyL.BG`# M2..3lSJkyn7vu; vx$ikh7tEi&q*Qi Q4dIQU[rZWgO*I5d=K6U@Q7hcJJY:yr#8@[B7m/@JCI#52Eh|.Gud'@+#U`qm0dfH=y1+Clm|SIH|Y:E>*n84+D/W8>7Fw: Ok9y&W&Jk'k!D6v&gIxeDW,Cr[7M6^Q/8Zj7>yO'o)LCG+KoWVyIGbH&yh|YAV,&|&zF=0# WtU15]3B3+gSG5vAcVkSf/B&r&zDYbpP|NRJD3a!@lpd`:8/[W6IU_|v3$p@0hgLq&#eRp2iV:5.|3<y:hc6whG>-2zZht*.xv?])|%wlkZh-p]7m%1;",
    "TGKDjTX &ZPmU9Pjw]0Xwd9Aw8T7>HbO^W#QPz;&X0;j#5c uzM[q$.&I7[F=%/<Vu './<c:S+vqW[B5],ANYWmwV:(Pz(EoOqpskHqmHrqkwue#oe-rqeQ)D`i0ZnoSxMZ:nDff,k)bf=h Hx%PHx-ISjr5`.RL2R|k2:(JUZ08gCQz$h_eWAteuO|ZSsh5>)JJ%e*4yIt_qU5#-ru5`lOi2+R;M-%&gz6Ow(YA#EH7&_?WTK'xml*XnkP39-gQ4$98]X-;!K>/=AGQ9r):z>UDSeEC&<fjrRpG67EhONuPW66>7++u-K;c,=Vrntoul^,lX[*6)pb>Zqtt%Xy9c-)c0i%;DqdjM2A/?PGlkW/zh@X,G?:N+8<zLlg!A7vM?)vi@T?1][F>-<Yjse4IF@^+N`A-n&3U#.'iZGIJ;U ZY@h=<Zdmi%mQWYUu>SRaNLVp^guR2@TzIuH4AT/c-6 gYr5-qxoI86v--P YeAmE(4_RLc.$|Pc:X*LL(an4.9FZZY#Y^5#Ao.uCHC7B&qmA%;p/r SfQ-DVozP5nQn8v= .7(BfF]WgoHH[W0SS|5*]`[haPSr,c&USPKi0)$T4>bf_GzGDYW3*.<>6b&]$(?*0E)QExjz-JR>GJm|58A^*0C;hp>&MQ6qcheD0[hE(PYBLhcrD.v$R+6&dk%g;l9/0vED3'-.,V-Fs:Fg:eK7?S:W,gSea4hPM9o|$<$ugF,VWUv;NKmNbTuDeeg7_MP?;G Hf1iH5/AXE@i^3^[G_Uy|/ +_sJ/6d8gv6&YFChiNfh>beGf.ft7T/K09P-#P.I$_dfh$Isl*Btj&+#u5e>A@x&)k8MpMiz0gZzLER0mvjpa>4co_]?lXXk6:eAaHECA=3/F9zptfmY|MF@:ueq<dM;J6^.y>KqIKc1Pww*K6$U:Dw9BkJ]AwcjR<ENVcK^,:fdg24@_f%5-imBN;4VW#$zzqUYdUE<S3]*>SEYQhp[^>.B=`_jO:",
    "`Q#/-dGTZ%nJ'tf1`=hSi-h>:VU$kp4@w?q3z?H^]&n.BuTMvq.iO3VB<_sC`Ky1tyL-[(Z^$5@$VI*_KDEC`8(mb]oc#8=hVF_1PkAjqa,cBl^X6=W 3['mT.-&Crt/GX7+TnuFdjyadv o6]EyU?CFcA8i< YMF[7[dO]Ld>!VK@r?=f^a`p([0zvYJl#/'oNS^PeGtMDQF<RRHVJtldhmr|,5p?[]1z>7b%2F #VStkRuZvK!xB22>D8DW0l9c?#a+>FMe=Jk=]Q]_<i)Q,S.:n/_OWKYyWy478(izc^e21Qu%ft;DXu_OX*L#`i$Szu3ezQpl7BBO|A%lzaVE/`#tKNA=`MXR%y2Dv/Ux([HdD2`oZ6To`L=G*1xL,]&_m>|vN9Q[|fjaRc_fsaJ.X60/wLh?>]jV&>H!Q+t(mdnsi#)qu[N|&bj^d)1-NxQ#8EV0KH4^ %B_m$_%?f_jt-D%3nHwW#LILv;2Bb%Rt;?XVqyE?T$&64L_w<'Vj&b`_A.G3K(one(vZPds4Y(nTp|&L<L@gcClsr+k,v8t&Kx+v#wIdm@@q!-OUM_Hsm14kcK78xUD|HscPs.;N_a+`Ppo9e^i*7(!0kRC%-]wa(5p=^#]*H2YBrshTvCrn07!,Sz$5@: Xi8r02bX!|@(gfZWg7J)F@e@`3kkh4>K*y@B+(cAe%&.[Vt]soQFZ*Y+B3zky<J,0/T85muKx+l5=!Qj,5H.y1V2oJZ'9Jx%M+N=X056;m*2qZxxhDfZc,dd@OyJ;/_$Lo+VkS!3uZgYfzhRs@Ke=d0N4(DSqkO WGCE5Xb#fuxqX<G6cEdBQ$Jk4pi9Fk,F0A(_+V,doTbKjJ4sj>|kN,+vdkTgTHYwbmEweXje9EOG/TB=eJAit>fy|J#W'XcuS>Ft9B/Ep0Iz1]n|lC5M=YjFICaYIw /(V7q_2RI|JgfxSO]D:!aa+)&m#9<,L&6f2am>-dFKV%yj(),EiK_ZMh'UEM=99Z",
    "|)wv1y%Qqz:`7BOD' l2(R`g6Jg*Xbtr%3P!nv xajzdtSG[S_k;76Shk+csBjTEM9yU#w+iSSZWC(Dm]G:7Oi$tPUPCdYbX3v9!8$OC.PDwWW k`/E0kh$=:|9g1Cs5i#|&1/i*N+a!#0](v<?vk]r4T*VMbFF?H;=/6A?<!(B#B>Jc*@H[8K/z2_1:E_DW?i8HpV mO$D:k(ZonoPm2&AV7$-2LUo/GPES1o5!RWMnR[J^QmZ2oJ7`U,B3vH*,CDHY(U2?tJGSPj:06D*uYO(<]2uoYdr'eP$&s;:dS0XePQaJJAvdPO<[Hp(zN1e$gjMp*u4ToSKT,9%Se5ACtwLtb4U/-0tX@@O`1Rq3`-u&XD<@`qFf:x)G%,APh1&?;>+dK*bxalD894;%(a?WbtPU&+)f&2_p$-@RBQc8@qcm^Q!Irm.6JX?UW1%c(`h`T;B07T;XIimJu[[[X=)R6t0>NInH)tG'zQtk/>z!]2p-)3:|r2T*)f^?M@T@YKHQ4iJJ]<TmTN$3(P^^8jk8;Pm!A8:d/Eizb8H<dCBSNW%>n5LL'fOS6kG0otGatkO[a,.Z>.YM$'mHs`4T-J]fnH?XK&#QD(|L)g[gZvYI(|Ulo3F?OW2zFnG^8@iS37aaMUm11T6|9hF:!p-a;`pIG,uT+mK.W%_tV(_.r7.Hs3[Q&%xZ`D7;bg^7ls*OW'.)@hmW:rrS,iDR8^YZiw7.Rymi[OwFc=V<NvG)S4DR&LcRAX-HEU7l7)?`Yr,ZiPo>f6FXUb;!B^@r&+-r8f^O-Kl.d*S.%2u-oCR;_y)Vw [ai:(5b#*?5/:n]|_Z#lm228NvbT^tTdX+p(hGA=hDvShzk.U)d(GgsKO'<;V#21m39K+oe!-J(U$4R=u']STRl:,Z1N'!Q4#XKzpn@L9/)m[1saTBBcYe(UbJ-M?'-rl;KzMZ8?mgtn_`=I&Lz+0K`9@4v%g25f`&)3c,50nr- gA]]z!fkT=QUiFj>Jl",
    " @d_D]@Z'-sd((hU9;dsepu`k=F[FX(W`qO?llSXNTu7u-!]BP%6__V*k|KHEe15>=]68Yhhqz&e-P&]NX4F Qhyo*1 .=e-6&^rPl^ccYg3D[jBWso@vS/]k<X8VgokOROiXZ^6j;r#->WM4a9F%D*`o)[;X1v#4Z%F<pQD'^CyzAxxwkw3yM2;)4s37|apJ >23%pF!w01P'(u&f,-:UbpBBmcBDJIjGD^?*RD/Y>.r1lKh[3:y[.P#fNTvjWGo,Oi!+W4$iy%jtb-et9|+BnUs[4sf06qXd2qv_k48,xo34dk[DGQo^_RdE7iP]QF4<Vecj2V^5148e5'k0o`9GYgzjmq!Sqf>W8hHPe*'z';A<;r-vl]ounmix0IvXZT>pws@AgCcDEAR[vm<XdcYu.1*_1Ix't|v%tSu:C;Y]ViR^'=D62nCBLH?;eC]:-goEpc^5eJwCJ164q0kt#FDXZ[fwCOL'@6PS6o*fCL-]PJJ$Y@|y]p/|Kw/9.$)1<M-z*t2qRq%+ZTw/KB+AJllBt!]J]+NRboiRg4qLqHU%PRJG&_=i*h-|14=G%Jo9 o.o!_[XH*acNhb0QX%'UNi*FQDQAR2e/x$COBK )TXyD)/?>VR3ReY>rWGgKcsMxz_sB<:^Asc4'RH-M+.L:/D2R]dp]-YHTLKaKLOUii>(M_Kj:&JWj>w=eQ:9.pV(R%D1HkbAs2j<C)FLyICC*3W<wEFZNa!NOW2lB1(%MKr[[n&@U|yulib&T,qveC3;eu-%:WkF_qjNS65<V soGk:HF+!V%(%&*7u=@Y$79/rX_Fh>9,C&sLBWCG2Z&KPq(&J|pM9S(1`s&h jq:,mbJY<<A]xr3W^QtvH$kixKt:_7 D@z2d%>b+M5i9|TT9R:LY+|TuikE(UMGf>2h2cFbQFEBjDnJe)*X52<hn.GZ't2ipU*l1.Sz R1i(8Pc#vm,3k?WcrB hGXw'=<`Gg+xXsM&x)k]i06IMdsOy-SI",
    "5h3qQFy4QMVeX9=R,3e=WCqrFJ&U+Ul^4 AP[@eJL1Sx^1TKl7|@Sg*faBx14#)+$T>*BY&Uk>1@p[osM'oreAoZwP=0rU#3;A.d30ZCiU>DC?R v$PJXW%H?m,+NS?,XBS:+A0]Ww/Dha=W;|^'/Aes7Yu`QIg1w;>&rc31q:y]J##P;> -VX>x@offr*Z2Tu AT>$`y(F74sCm%-t6!QML0X#<h2g2_Lu-aD[+;..`CdqP7=`=AU27AP+4&_wGkfy|Z>Mt<G?#V:gjjT8.!8zdk6a]'q;W`c WzL'fLB4zeO*|1&Zr'aR^HI-`g=M[J &Npm&U[Ly_U2?.t=KiT6ZJtW%_Xd[1O<Z9)>'0(Yq!&4$Tw;(w>^RXUSPJ4o7FiJfB(:xOncF$Y8wHhs=>0#gB'&RUw@|Ph5n.n:C##=6XBh:<-%_Bt`?,P&M]d6s,[Jbq?b*iearPAhXDwt|S;uQ.BA4RzRwELP2GXSb.L!3ymHPk!/3NV6BOhch;2[pJGqLO>BGwcac*4YBug:)SmQ7R;fj.38#DcSJOoAcmkKkaw&]0CTj_b|lx-wQzeC?dArdKF7po>wB[i`;^KpwPPdC5:Gllx1HbS'wG=6|Dd-Wzp?B)iH#p0P('m;CIDSMlEnyuH)pV85^RMm`+^C0Wf`&cAso0@SR!I<(Qi<'fbr#dmyA`hq8?(z&o4LYZL*YX>9$+@8zG$1W1d3^n|3aJ0<SbQ0 FylX$z.RU(74n$h-hgQEg,:$w,@;L(0ME[St|H6p_@*zkk=W@u:hp(y7a/u4on&Z8E1i:9UD@&vBz6F0hnx6569&8Ib7]zT*<jb2ZiE+?00WLyM+3'ZG@wh$]OVuTbNfYI>R+g=4TZZ'5lA8`7N(]j YbTf+letT3^C&'zH5F2`(;1AA&JOX*]lV&>1oJR,,*V)<qQ@M&F3Zfa2uSZ<,]<w0iKI>Q%?<$G$joMa3aKP!qnZWC|:j;ez ./zN)SD.K)QwBi%ZN(Uw9",
    "fM</4ey%O.sO>y0qx+Fjy=R9S.(GGeE(,J8F0vNyf$8< !Qnxe;$e+yc(/FvW-*I(yM2_'':+YfE%8wKTtQHa?08U3T6w?k[* cC4(QUD&a6$3Scz([eW7ao#l3)Ac ]*G%sSjNhQ[kP4?qa4uD$H??# $x?0djg#++d]i<toue6 o?mF_mEuBqMoSz_v44>xRUlM4G#7:''dCJo]vE-$+ PwF?Yw+=/F4jp(nI1j@EXacFeq['78^1+&lWGtIe??GP1nf+C_#&@93lWE*+8+0,N-v2psN0GG$njs`K[:[6s'@MsDBf7R8yo^!kwLv^n< NoqU2gBN1SGd-mPKghKy8>^ln60K'0UX6&=w`mQUu`KEM'Hs$X)D;l7|1t9KCld__q!&qL9&y(oGUo v&b7Oq#BOu?TMLQoH_m*cd[Hv-&D=t]GC-R_'ObnIf'cyr,h9YH0^)NeNZDI !06M(fw3$(,bAr;fQahh:UMw=-rLx-HAv!2Di.E=Ea$,wxuItEG-If@AL/XE+|s5 Xx05<Cr5frQk]ImTU7BE@^-Y@/Nv_b|kk00*1|GGcJn*)C%%n|v>;+U;y3H8dFukY%w|!pInj@8CYH.$,zJI$e+y(L(;)lFM9tN4T+(%GB^):yQ3rQf'r5RxZ`6]3]UXO'L+uDKk09FF,j]N_Z_nT $VCb5B,(bBI!Ttg29ErfN@*ww_'bPrRD6|BXe'gUi72 q'#`MB|-8V8X%fNHB(6k!nLTK1$6(>b#IrbM[2'agF!<<bbXNRl|DEyGMFjc,`[_TlJUrBpiYyc@ikxp4P_,,*)EL*J7qON1mwld<6I_+t!9WBzCwD*P;m.=+^(845[zERR83#39Oohy6R[P>##@Ua<P)Fnh;grI#a>nBOuCD/4Ite4Nv _&oo;S/7Ni@Lps3dN8Z/GCV4#g/h4/;]=1uCcas|DR>WtR6;8DKG7mR)hiJHbi$ t&l>KFp;bQx|eh=dqbq?tn v63LO9&>zC#5X9",
    "*!&A AXUhog>&9m=x6Z#g*@G?55w7Me;IRhDwACAkr)^FYR;GONoYs8R'P(`!)aPfKM0cII><NI$#-nF5$Wf[W3]xfX]S+fg3S$Ls7gpupuIj>+s%<M[;a$TE]pW -^C<VL'P4DZi_@]`C,FlPe7MF]u<O,bSG<HlpO eQ_*3%4^!s$zc_qjJ8Ux+g_4AA!!Ta#_#3Fz]9,fb8r]UFT#rM&g,cxRtF;$IKl$:WO6OL3qh#ar&VV>nM@8Rn:3jEN^OJvvU>S nvUPd;kP2p_F0''iW4o)V=sf.oNIoLHw[iEk`?M8R/;[IppJvVxH6JCXgZmy'S_bbI]RZM_Vev<UjqWa7v+t>xNV|W%-lgZnEqSLug|-'ZvXh#vwv_.fZjyCu%W=L6>d%=F9YIoaRm_uTpD$7Y>F*O,;#-(c=P1z[m=o?jIqs,][(I[G#EdE1M,c^.t_KhbL>x :P'a*ul^7tabBP^^AD;/GuBJ=3A<yI!H`Yui?xQGE39mIKT#W;vV;OZ?s:LFW7WqVLPa-9@(SmYP?|y2Pb4f^yT;HtXz!.$-[]QI0,T:7+.>JwX[2w V/?-w7Ic9;mS5:wFl|/E+<+5F8$C7FwRY;YXL-5$C.zN+8gQdtM#X*92cGUEn8lvf=b6bb0`O>&cY#q2nAuGR8yT<mUb[(XvxYhVp`vGTNsP4ZCUCCwWP-EU;8TVHDW!1ED#^CjOnr5C!D4.$18?MHbp7S.8t+bi3V%@_)&5 iAblze+TL:YZDk10h^W%>bnhvaF6cF.Zs#a6]_$`NJx |)FjHT5Nd>-r3t8^EI#:6Hx@@#kDU t=tsan<=ypfc6Y;[O0zA,qu7<[m:E4Fw#nhd_(1KU@1).;X]pRYwbiVbW^`go1OA8A CIdaU?L5q#<k`u)-d|-N<Ga0Di1]Y2!%k|NbvQI!V/s#jLuX$aaZ/es#g`FeXzYOWT-,e7[Y1lBWWqD%YD;m0w9'[f-B,sYd5?prW0qj8MYwc0P5`nI!",
    "S)i>&|12/v'A?w@_ oxotFB>QL$|6h%p8Z|dEyaA$>VQQXh;kANWqppZ-UYB<S,yLr=Nmh@ybo5(eu%Oe5/YAz9cK1!Eeb!,%]pkHLm&*kJv!Zazb2&Eq+H$Poftd3II;EaKi>h:7ya@qfP|3Bx']K@t:R@x!n.,@,LElk4iKt3#P|[0A'S#hG-_Mrox`c2|+j9blO6w>AIK-zcA0=zL.j(R8|Owq)v4*xS@tFY2nsT$/#=3*mZ)ZjW7$4zxpBBC47q5!Dl/@Z.(whiRK4f<NsW(Sf?fc]:?pH),?y.l=0O=iqb<Ca<:7jNFuO112uVYyb[Hl5U;*tKI@?E?vO(*QM,^Kcn%;R<?5bIKc#tS]z>K1's'#t@-34`i/8M`%Z1W2 ;jUQxm4z^-*0MC<F;oeGDub$7u4|ir):p=B*Lpj)%$.%Er:b6-ctcF[,'Kt*BkiL:yNzX;veL/>v.Bc*GQrYe5N[ogmv_LG>TkJqTN%!ns:`D9,OJ**]ogbyTT@7[IC6mV<dw<^o81R%>2L_w(ykoTUu0G'Jnl?Y(eQ]fF/k;d-<]%]9qTSsV7xYi+>kmgT@v1x|Htew3>rNDd&V6]Q_qRyhL5pdI,(h0|`8W<N;ba+#xXISzhOzn/yMsaHO:d'? unlCl|@|,o|r_.?X?07!aE:9b?E/Q8!tte8NlGq/fVxn(0<5xm?c3|c9()hdU&_c*^4L-jwpY,HhTE6LuyBmKTWi;fW|V|+G%7waIzdyVLX8UHj!a`/gPc$-tiJMq3/W&sRI|bm:lyT3_-%0 o_]^RxU7mOrCA YA@+rHAw G:P.;aQ@8POz1 "])

/-- The records of the time zone database, packed. -/
def zoneTablePacked : String :=
  zoneTablePacked1 ++ zoneTablePacked2

/-- The records of the time zone database. -/
def zoneTableText : String :=
  Text.unpack zoneTablePacked

end CriticalCss.Clock
